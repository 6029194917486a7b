import Runbook.Text.Basic
import Runbook.Text.Run

/-!
# Upper and lower case

The case properties of Unicode and the lower-case form of a text. Letters of ASCII are settled
without the tables.
-/

namespace Runbook.Text

/-- The property `Uppercase`. -/
def upperRuns : List Run :=
  [(65, 26, 1), (192, 23, 1), (216, 7, 1), (256, 28, 2), (313, 8, 2), (330, 24, 2), (377, 3, 2),
   (385, 2, 1), (388, 2, 2), (391, 2, 2), (394, 2, 1), (398, 4, 1), (403, 2, 1), (406, 3, 1),
   (412, 2, 1), (415, 2, 1), (418, 3, 2), (423, 2, 2), (428, 2, 2), (431, 2, 2), (434, 2, 1),
   (437, 2, 2), (440, 1, 1), (444, 1, 1), (452, 1, 1), (455, 1, 1), (458, 1, 1), (461, 8, 2),
   (478, 9, 2), (497, 1, 1), (500, 2, 2), (503, 2, 1), (506, 29, 2), (570, 2, 1), (573, 2, 1),
   (577, 2, 2), (580, 3, 1), (584, 4, 2), (880, 2, 2), (886, 1, 1), (895, 1, 1), (902, 2, 2),
   (905, 2, 1), (908, 2, 2), (911, 2, 2), (914, 16, 1), (931, 9, 1), (975, 1, 1), (978, 3, 1),
   (984, 12, 2), (1012, 1, 1), (1015, 2, 2), (1018, 1, 1), (1021, 51, 1), (1120, 17, 2),
   (1162, 28, 2), (1217, 7, 2), (1232, 48, 2), (1329, 38, 1), (4256, 38, 1), (4295, 1, 1),
   (4301, 1, 1), (5024, 86, 1), (7305, 1, 1), (7312, 43, 1), (7357, 3, 1), (7680, 75, 2),
   (7838, 49, 2), (7944, 8, 1), (7960, 6, 1), (7976, 8, 1), (7992, 8, 1), (8008, 6, 1),
   (8025, 4, 2), (8040, 8, 1), (8120, 4, 1), (8136, 4, 1), (8152, 4, 1), (8168, 5, 1),
   (8184, 4, 1), (8450, 1, 1), (8455, 1, 1), (8459, 3, 1), (8464, 3, 1), (8469, 1, 1),
   (8473, 5, 1), (8484, 4, 2), (8491, 3, 1), (8496, 4, 1), (8510, 2, 1), (8517, 1, 1),
   (8544, 16, 1), (8579, 1, 1), (9398, 26, 1), (11264, 48, 1), (11360, 2, 2), (11363, 2, 1),
   (11367, 4, 2), (11374, 3, 1), (11378, 1, 1), (11381, 1, 1), (11390, 3, 1), (11394, 49, 2),
   (11499, 2, 2), (11506, 1, 1), (42560, 23, 2), (42624, 14, 2), (42786, 7, 2), (42802, 31, 2),
   (42873, 3, 2), (42878, 5, 2), (42891, 2, 2), (42896, 2, 2), (42902, 11, 2), (42923, 4, 1),
   (42928, 5, 1), (42934, 8, 2), (42949, 3, 1), (42953, 2, 2), (42956, 9, 2), (42997, 1, 1),
   (65313, 26, 1), (66560, 40, 1), (66736, 36, 1), (66928, 11, 1), (66940, 15, 1), (66956, 7, 1),
   (66964, 2, 1), (68736, 51, 1), (68944, 22, 1), (71840, 32, 1), (93760, 32, 1), (93856, 25, 1),
   (119808, 26, 1), (119860, 26, 1), (119912, 26, 1), (119964, 2, 2), (119967, 1, 1),
   (119970, 1, 1), (119973, 2, 1), (119977, 4, 1), (119982, 8, 1), (120016, 26, 1), (120068, 2, 1),
   (120071, 4, 1), (120077, 8, 1), (120086, 7, 1), (120120, 2, 1), (120123, 4, 1), (120128, 5, 1),
   (120134, 1, 1), (120138, 7, 1), (120172, 26, 1), (120224, 26, 1), (120276, 26, 1),
   (120328, 26, 1), (120380, 26, 1), (120432, 26, 1), (120488, 25, 1), (120546, 25, 1),
   (120604, 25, 1), (120662, 25, 1), (120720, 25, 1), (120778, 1, 1), (125184, 34, 1),
   (127280, 26, 1), (127312, 26, 1), (127344, 26, 1)]

/-- The property `Changes_When_Uppercased`. -/
def raisedRuns : List Run :=
  [(97, 26, 1), (181, 1, 1), (223, 24, 1), (248, 8, 1), (257, 28, 2), (314, 8, 2), (329, 24, 2),
   (378, 3, 2), (383, 2, 1), (387, 2, 2), (392, 1, 1), (396, 1, 1), (402, 1, 1), (405, 1, 1),
   (409, 3, 1), (414, 1, 1), (417, 3, 2), (424, 1, 1), (429, 1, 1), (432, 1, 1), (436, 2, 2),
   (441, 1, 1), (445, 2, 2), (453, 2, 1), (456, 2, 1), (459, 2, 1), (462, 8, 2), (477, 10, 2),
   (496, 2, 2), (499, 2, 2), (505, 20, 2), (547, 9, 2), (572, 1, 1), (575, 2, 1), (578, 1, 1),
   (583, 5, 2), (592, 5, 1), (598, 2, 1), (601, 2, 2), (604, 1, 1), (608, 2, 1), (611, 4, 1),
   (616, 5, 1), (623, 2, 2), (626, 1, 1), (629, 1, 1), (637, 1, 1), (640, 2, 2), (643, 1, 1),
   (647, 6, 1), (658, 1, 1), (669, 2, 1), (837, 1, 1), (881, 2, 2), (887, 1, 1), (891, 3, 1),
   (912, 1, 1), (940, 35, 1), (976, 2, 1), (981, 3, 1), (985, 12, 2), (1008, 4, 1), (1013, 1, 1),
   (1016, 1, 1), (1019, 1, 1), (1072, 48, 1), (1121, 17, 2), (1163, 27, 2), (1218, 7, 2),
   (1231, 49, 2), (1377, 39, 1), (4304, 43, 1), (4349, 3, 1), (5112, 6, 1), (7296, 9, 1),
   (7306, 1, 1), (7545, 1, 1), (7549, 1, 1), (7566, 1, 1), (7681, 75, 2), (7830, 6, 1),
   (7841, 48, 2), (7936, 8, 1), (7952, 6, 1), (7968, 8, 1), (7984, 8, 1), (8000, 6, 1),
   (8016, 8, 1), (8032, 8, 1), (8048, 14, 1), (8064, 53, 1), (8118, 2, 1), (8124, 2, 2),
   (8130, 3, 1), (8134, 2, 1), (8140, 1, 1), (8144, 4, 1), (8150, 2, 1), (8160, 8, 1),
   (8178, 3, 1), (8182, 2, 1), (8188, 1, 1), (8526, 1, 1), (8560, 16, 1), (8580, 1, 1),
   (9424, 26, 1), (11312, 48, 1), (11361, 1, 1), (11365, 2, 1), (11368, 3, 2), (11379, 1, 1),
   (11382, 1, 1), (11393, 50, 2), (11500, 2, 2), (11507, 1, 1), (11520, 38, 1), (11559, 1, 1),
   (11565, 1, 1), (42561, 23, 2), (42625, 14, 2), (42787, 7, 2), (42803, 31, 2), (42874, 2, 2),
   (42879, 5, 2), (42892, 1, 1), (42897, 2, 2), (42900, 1, 1), (42903, 10, 2), (42933, 8, 2),
   (42952, 2, 2), (42957, 8, 2), (42998, 1, 1), (43859, 1, 1), (43888, 80, 1), (64256, 7, 1),
   (64275, 5, 1), (65345, 26, 1), (66600, 40, 1), (66776, 36, 1), (66967, 11, 1), (66979, 15, 1),
   (66995, 7, 1), (67003, 2, 1), (68800, 51, 1), (68976, 22, 1), (71872, 32, 1), (93792, 32, 1),
   (93883, 25, 1), (125218, 34, 1)]

/-- The lower-case forms that are single characters. -/
def lowerShifts : List Shift :=
  [(65, 26, 1, 97), (192, 23, 1, 224), (216, 7, 1, 248), (256, 24, 2, 257), (306, 3, 2, 307),
   (313, 8, 2, 314), (330, 23, 2, 331), (376, 1, 1, 255), (377, 3, 2, 378), (385, 1, 1, 595),
   (386, 2, 2, 387), (390, 1, 1, 596), (391, 1, 1, 392), (393, 2, 1, 598), (395, 1, 1, 396),
   (398, 1, 1, 477), (399, 1, 1, 601), (400, 1, 1, 603), (401, 1, 1, 402), (403, 1, 1, 608),
   (404, 1, 1, 611), (406, 1, 1, 617), (407, 1, 1, 616), (408, 1, 1, 409), (412, 1, 1, 623),
   (413, 1, 1, 626), (415, 1, 1, 629), (416, 3, 2, 417), (422, 1, 1, 640), (423, 1, 1, 424),
   (425, 1, 1, 643), (428, 1, 1, 429), (430, 1, 1, 648), (431, 1, 1, 432), (433, 2, 1, 650),
   (435, 2, 2, 436), (439, 1, 1, 658), (440, 1, 1, 441), (444, 1, 1, 445), (452, 1, 1, 454),
   (453, 1, 1, 454), (455, 1, 1, 457), (456, 1, 1, 457), (458, 1, 1, 460), (459, 9, 2, 460),
   (478, 9, 2, 479), (497, 1, 1, 499), (498, 2, 2, 499), (502, 1, 1, 405), (503, 1, 1, 447),
   (504, 20, 2, 505), (544, 1, 1, 414), (546, 9, 2, 547), (570, 1, 1, 11365), (571, 1, 1, 572),
   (573, 1, 1, 410), (574, 1, 1, 11366), (577, 1, 1, 578), (579, 1, 1, 384), (580, 1, 1, 649),
   (581, 1, 1, 652), (582, 5, 2, 583), (880, 2, 2, 881), (886, 1, 1, 887), (895, 1, 1, 1011),
   (902, 1, 1, 940), (904, 3, 1, 941), (908, 1, 1, 972), (910, 2, 1, 973), (913, 17, 1, 945),
   (931, 9, 1, 963), (975, 1, 1, 983), (984, 12, 2, 985), (1012, 1, 1, 952), (1015, 1, 1, 1016),
   (1017, 1, 1, 1010), (1018, 1, 1, 1019), (1021, 3, 1, 891), (1024, 16, 1, 1104),
   (1040, 32, 1, 1072), (1120, 17, 2, 1121), (1162, 27, 2, 1163), (1216, 1, 1, 1231),
   (1217, 7, 2, 1218), (1232, 48, 2, 1233), (1329, 38, 1, 1377), (4256, 38, 1, 11520),
   (4295, 1, 1, 11559), (4301, 1, 1, 11565), (5024, 80, 1, 43888), (5104, 6, 1, 5112),
   (7305, 1, 1, 7306), (7312, 43, 1, 4304), (7357, 3, 1, 4349), (7680, 75, 2, 7681),
   (7838, 1, 1, 223), (7840, 48, 2, 7841), (7944, 8, 1, 7936), (7960, 6, 1, 7952),
   (7976, 8, 1, 7968), (7992, 8, 1, 7984), (8008, 6, 1, 8000), (8025, 4, 2, 8017),
   (8040, 8, 1, 8032), (8072, 8, 1, 8064), (8088, 8, 1, 8080), (8104, 8, 1, 8096),
   (8120, 2, 1, 8112), (8122, 2, 1, 8048), (8124, 1, 1, 8115), (8136, 4, 1, 8050),
   (8140, 1, 1, 8131), (8152, 2, 1, 8144), (8154, 2, 1, 8054), (8168, 2, 1, 8160),
   (8170, 2, 1, 8058), (8172, 1, 1, 8165), (8184, 2, 1, 8056), (8186, 2, 1, 8060),
   (8188, 1, 1, 8179), (8486, 1, 1, 969), (8490, 1, 1, 107), (8491, 1, 1, 229), (8498, 1, 1, 8526),
   (8544, 16, 1, 8560), (8579, 1, 1, 8580), (9398, 26, 1, 9424), (11264, 48, 1, 11312),
   (11360, 1, 1, 11361), (11362, 1, 1, 619), (11363, 1, 1, 7549), (11364, 1, 1, 637),
   (11367, 3, 2, 11368), (11373, 1, 1, 593), (11374, 1, 1, 625), (11375, 1, 1, 592),
   (11376, 1, 1, 594), (11378, 1, 1, 11379), (11381, 1, 1, 11382), (11390, 2, 1, 575),
   (11392, 50, 2, 11393), (11499, 2, 2, 11500), (11506, 1, 1, 11507), (42560, 23, 2, 42561),
   (42624, 14, 2, 42625), (42786, 7, 2, 42787), (42802, 31, 2, 42803), (42873, 2, 2, 42874),
   (42877, 1, 1, 7545), (42878, 5, 2, 42879), (42891, 1, 1, 42892), (42893, 1, 1, 613),
   (42896, 2, 2, 42897), (42902, 10, 2, 42903), (42922, 1, 1, 614), (42923, 1, 1, 604),
   (42924, 1, 1, 609), (42925, 1, 1, 620), (42926, 1, 1, 618), (42928, 1, 1, 670),
   (42929, 1, 1, 647), (42930, 1, 1, 669), (42931, 1, 1, 43859), (42932, 8, 2, 42933),
   (42948, 1, 1, 42900), (42949, 1, 1, 642), (42950, 1, 1, 7566), (42951, 2, 2, 42952),
   (42955, 1, 1, 612), (42956, 8, 2, 42957), (42972, 1, 1, 411), (42997, 1, 1, 42998),
   (65313, 26, 1, 65345), (66560, 40, 1, 66600), (66736, 36, 1, 66776), (66928, 11, 1, 66967),
   (66940, 15, 1, 66979), (66956, 7, 1, 66995), (66964, 2, 1, 67003), (68736, 51, 1, 68800),
   (68944, 22, 1, 68976), (71840, 32, 1, 71872), (93760, 32, 1, 93792), (93856, 25, 1, 93883),
   (125184, 34, 1, 125218)]

/-- The least character that differs only in case, for those that are not the least. -/
def foldShifts : List Shift :=
  [(97, 26, 1, 65), (224, 23, 1, 192), (248, 7, 1, 216), (257, 24, 2, 256), (307, 3, 2, 306),
   (314, 8, 2, 313), (331, 23, 2, 330), (376, 1, 1, 255), (378, 3, 2, 377), (383, 1, 1, 83),
   (387, 2, 2, 386), (392, 1, 1, 391), (396, 1, 1, 395), (402, 1, 1, 401), (409, 1, 1, 408),
   (417, 3, 2, 416), (424, 1, 1, 423), (429, 1, 1, 428), (432, 1, 1, 431), (436, 2, 2, 435),
   (441, 1, 1, 440), (445, 1, 1, 444), (453, 1, 1, 452), (454, 1, 1, 452), (456, 1, 1, 455),
   (457, 1, 1, 455), (459, 1, 1, 458), (460, 1, 1, 458), (462, 8, 2, 461), (477, 1, 1, 398),
   (479, 9, 2, 478), (498, 1, 1, 497), (499, 1, 1, 497), (501, 1, 1, 500), (502, 1, 1, 405),
   (503, 1, 1, 447), (505, 20, 2, 504), (544, 1, 1, 414), (547, 9, 2, 546), (572, 1, 1, 571),
   (573, 1, 1, 410), (578, 1, 1, 577), (579, 1, 1, 384), (583, 5, 2, 582), (595, 1, 1, 385),
   (596, 1, 1, 390), (598, 2, 1, 393), (601, 1, 1, 399), (603, 1, 1, 400), (608, 1, 1, 403),
   (611, 1, 1, 404), (616, 1, 1, 407), (617, 1, 1, 406), (623, 1, 1, 412), (626, 1, 1, 413),
   (629, 1, 1, 415), (640, 1, 1, 422), (643, 1, 1, 425), (648, 1, 1, 430), (649, 1, 1, 580),
   (650, 2, 1, 433), (652, 1, 1, 581), (658, 1, 1, 439), (881, 2, 2, 880), (887, 1, 1, 886),
   (921, 1, 1, 837), (924, 1, 1, 181), (940, 1, 1, 902), (941, 3, 1, 904), (945, 8, 1, 913),
   (953, 1, 1, 837), (954, 2, 1, 922), (956, 1, 1, 181), (957, 5, 1, 925), (962, 1, 1, 931),
   (963, 9, 1, 931), (972, 1, 1, 908), (973, 2, 1, 910), (976, 1, 1, 914), (977, 1, 1, 920),
   (981, 1, 1, 934), (982, 1, 1, 928), (983, 1, 1, 975), (985, 12, 2, 984), (1008, 1, 1, 922),
   (1009, 1, 1, 929), (1011, 1, 1, 895), (1012, 1, 1, 920), (1013, 1, 1, 917), (1016, 1, 1, 1015),
   (1017, 1, 1, 1010), (1019, 1, 1, 1018), (1021, 3, 1, 891), (1072, 32, 1, 1040),
   (1104, 16, 1, 1024), (1121, 17, 2, 1120), (1163, 27, 2, 1162), (1218, 7, 2, 1217),
   (1231, 1, 1, 1216), (1233, 48, 2, 1232), (1377, 38, 1, 1329), (5112, 6, 1, 5104),
   (7296, 1, 1, 1042), (7297, 1, 1, 1044), (7298, 1, 1, 1054), (7299, 2, 1, 1057),
   (7301, 1, 1, 1058), (7302, 1, 1, 1066), (7303, 1, 1, 1122), (7306, 1, 1, 7305),
   (7312, 43, 1, 4304), (7357, 3, 1, 4349), (7681, 75, 2, 7680), (7835, 1, 1, 7776),
   (7838, 1, 1, 223), (7841, 48, 2, 7840), (7944, 8, 1, 7936), (7960, 6, 1, 7952),
   (7976, 8, 1, 7968), (7992, 8, 1, 7984), (8008, 6, 1, 8000), (8025, 4, 2, 8017),
   (8040, 8, 1, 8032), (8072, 8, 1, 8064), (8088, 8, 1, 8080), (8104, 8, 1, 8096),
   (8120, 2, 1, 8112), (8122, 2, 1, 8048), (8124, 1, 1, 8115), (8126, 1, 1, 837),
   (8136, 4, 1, 8050), (8140, 1, 1, 8131), (8147, 1, 1, 912), (8152, 2, 1, 8144),
   (8154, 2, 1, 8054), (8163, 1, 1, 944), (8168, 2, 1, 8160), (8170, 2, 1, 8058),
   (8172, 1, 1, 8165), (8184, 2, 1, 8056), (8186, 2, 1, 8060), (8188, 1, 1, 8179),
   (8486, 1, 1, 937), (8490, 1, 1, 75), (8491, 1, 1, 197), (8526, 1, 1, 8498), (8560, 16, 1, 8544),
   (8580, 1, 1, 8579), (9424, 26, 1, 9398), (11312, 48, 1, 11264), (11361, 1, 1, 11360),
   (11362, 1, 1, 619), (11363, 1, 1, 7549), (11364, 1, 1, 637), (11365, 1, 1, 570),
   (11366, 1, 1, 574), (11368, 3, 2, 11367), (11373, 1, 1, 593), (11374, 1, 1, 625),
   (11375, 1, 1, 592), (11376, 1, 1, 594), (11379, 1, 1, 11378), (11382, 1, 1, 11381),
   (11390, 2, 1, 575), (11393, 50, 2, 11392), (11500, 2, 2, 11499), (11507, 1, 1, 11506),
   (11520, 38, 1, 4256), (11559, 1, 1, 4295), (11565, 1, 1, 4301), (42561, 5, 2, 42560),
   (42570, 1, 1, 7304), (42571, 1, 1, 7304), (42573, 17, 2, 42572), (42625, 14, 2, 42624),
   (42787, 7, 2, 42786), (42803, 31, 2, 42802), (42874, 2, 2, 42873), (42877, 1, 1, 7545),
   (42879, 5, 2, 42878), (42892, 1, 1, 42891), (42893, 1, 1, 613), (42897, 2, 2, 42896),
   (42903, 10, 2, 42902), (42922, 1, 1, 614), (42923, 1, 1, 604), (42924, 1, 1, 609),
   (42925, 1, 1, 620), (42926, 1, 1, 618), (42928, 1, 1, 670), (42929, 1, 1, 647),
   (42930, 1, 1, 669), (42933, 8, 2, 42932), (42948, 1, 1, 42900), (42949, 1, 1, 642),
   (42950, 1, 1, 7566), (42952, 2, 2, 42951), (42955, 1, 1, 612), (42957, 8, 2, 42956),
   (42972, 1, 1, 411), (42998, 1, 1, 42997), (43859, 1, 1, 42931), (43888, 80, 1, 5024),
   (64262, 1, 1, 64261), (65345, 26, 1, 65313), (66600, 40, 1, 66560), (66776, 36, 1, 66736),
   (66967, 11, 1, 66928), (66979, 15, 1, 66940), (66995, 7, 1, 66956), (67003, 2, 1, 66964),
   (68800, 51, 1, 68736), (68976, 22, 1, 68944), (71872, 32, 1, 71840), (93792, 32, 1, 93760),
   (93883, 25, 1, 93856), (125218, 34, 1, 125184)]

/-- Is this an upper-case character? -/
def isUpperCase (c : Char) : Bool :=
  if c.toNat < 128 then isUpper c else inRuns upperRuns c

/-- Does the character have another upper-case form than itself? -/
def hasUpperForm (c : Char) : Bool :=
  if c.toNat < 128 then isLower c else inRuns raisedRuns c

/-- The lower-case form of a character. The dotted capital I keeps its dot as a character of
its own. -/
def lowerCase (c : Char) : List Char :=
  if c.toNat < 128 then [toLowerAscii c]
  else if c.toNat = 0x130 then ['i', Char.ofNat 0x307]
  else [shifted lowerShifts c]

/-- Does the character have another lower-case form than itself? -/
def hasLowerForm (c : Char) : Bool := lowerCase c ≠ [c]

/-- The lower-case form of a text, character by character. -/
def lowered (text : List Char) : List Char := text.flatMap lowerCase

/-- The least character that differs from `c` only in case. -/
def caseFold (c : Char) : Char :=
  if c.toNat < 128 then (if isLower c then Char.ofNat (c.toNat - 32) else c)
  else shifted foldShifts c

end Runbook.Text
