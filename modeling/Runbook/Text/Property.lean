import Runbook.Text.Run

/-!
# Properties of characters

Tables of properties of Unicode that are neither categories nor about case alone. What follows from
others is left out, or the table holds only what does not.
-/

namespace Runbook.Text

/-- The property `Bidi_Mirrored`. -/
def bidiMirroredRuns : List Run :=
  [(40, 2, 1), (60, 2, 2), (91, 2, 2), (123, 2, 2), (171, 1, 1), (187, 1, 1), (3898, 4, 1),
   (5787, 2, 1), (8249, 2, 1), (8261, 2, 1), (8317, 2, 1), (8333, 2, 1), (8512, 1, 1), (8705, 4, 1),
   (8712, 6, 1), (8721, 1, 1), (8725, 2, 1), (8730, 4, 1), (8735, 4, 1), (8740, 2, 2), (8747, 9, 1),
   (8761, 1, 1), (8763, 18, 1), (8786, 4, 1), (8799, 2, 1), (8802, 1, 1), (8804, 8, 1),
   (8813, 32, 1), (8847, 4, 1), (8856, 1, 1), (8866, 2, 1), (8870, 19, 1), (8894, 2, 1),
   (8905, 5, 1), (8912, 2, 1), (8918, 24, 1), (8944, 16, 1), (8968, 4, 1), (8992, 2, 1),
   (9001, 2, 1), (10088, 14, 1), (10176, 1, 1), (10179, 4, 1), (10184, 2, 1), (10187, 3, 1),
   (10195, 4, 1), (10204, 3, 1), (10210, 14, 1), (10627, 22, 1), (10651, 6, 1), (10658, 14, 1),
   (10680, 1, 1), (10688, 6, 1), (10697, 1, 1), (10702, 5, 1), (10708, 2, 1), (10712, 5, 1),
   (10721, 1, 1), (10723, 3, 1), (10728, 2, 1), (10740, 6, 1), (10748, 2, 1), (10762, 19, 1),
   (10782, 4, 1), (10788, 2, 2), (10793, 1, 1), (10795, 4, 1), (10804, 2, 1), (10812, 3, 1),
   (10839, 2, 1), (10852, 2, 1), (10858, 4, 1), (10863, 2, 1), (10867, 2, 1), (10873, 43, 1),
   (10918, 8, 1), (10927, 40, 1), (10972, 2, 2), (10978, 5, 1), (10988, 3, 1), (10995, 1, 1),
   (10999, 5, 1), (11005, 1, 1), (11262, 1, 1), (11778, 4, 1), (11785, 2, 1), (11788, 2, 1),
   (11804, 2, 1), (11808, 10, 1), (11861, 8, 1), (12296, 10, 1), (12308, 8, 1), (65113, 6, 1),
   (65124, 2, 1), (65288, 2, 1), (65308, 2, 2), (65339, 2, 2), (65371, 2, 2), (65375, 2, 1),
   (65378, 2, 1), (120539, 1, 1), (120597, 1, 1), (120655, 1, 1), (120713, 1, 1), (120771, 1, 1)]

/-- The characters of the property `Case_Ignorable` that are punctuation. -/
def midWordRuns : List Run :=
  [(39, 1, 1), (46, 1, 1), (58, 1, 1), (183, 1, 1), (903, 1, 1), (1375, 1, 1), (1524, 1, 1),
   (8216, 2, 1), (8228, 1, 1), (8231, 1, 1), (65043, 1, 1), (65106, 1, 1), (65109, 1, 1),
   (65287, 1, 1), (65294, 1, 1), (65306, 1, 1)]

/-- The characters that case folding changes and lower case does not. -/
def foldedRuns : List Run :=
  [(181, 1, 1), (223, 1, 1), (329, 1, 1), (383, 1, 1), (837, 1, 1), (962, 1, 1), (976, 2, 1),
   (981, 2, 1), (1008, 2, 1), (1013, 1, 1), (1415, 1, 1), (5112, 6, 1), (7296, 9, 1), (7834, 2, 1),
   (8064, 8, 1), (8080, 8, 1), (8096, 8, 1), (8114, 3, 1), (8119, 1, 1), (8130, 3, 1), (8135, 1, 1),
   (8178, 3, 1), (8183, 1, 1), (43888, 80, 1), (64256, 7, 1), (64275, 5, 1)]

/-- The property `Changes_When_Lowercased`. -/
def loweredRuns : List Run :=
  [(65, 26, 1), (192, 23, 1), (216, 7, 1), (256, 28, 2), (313, 8, 2), (330, 23, 2), (376, 2, 1),
   (379, 2, 2), (385, 2, 1), (388, 1, 1), (390, 2, 1), (393, 3, 1), (398, 4, 1), (403, 2, 1),
   (406, 3, 1), (412, 2, 1), (415, 2, 1), (418, 2, 2), (422, 2, 1), (425, 1, 1), (428, 1, 1),
   (430, 2, 1), (433, 3, 1), (437, 1, 1), (439, 2, 1), (444, 1, 1), (452, 2, 1), (455, 2, 1),
   (458, 2, 1), (461, 8, 2), (478, 9, 2), (497, 2, 1), (500, 1, 1), (502, 3, 1), (506, 29, 2),
   (570, 2, 1), (573, 2, 1), (577, 1, 1), (579, 4, 1), (584, 4, 2), (880, 2, 2), (886, 1, 1),
   (895, 1, 1), (902, 1, 1), (904, 3, 1), (908, 1, 1), (910, 2, 1), (913, 17, 1), (931, 9, 1),
   (975, 1, 1), (984, 12, 2), (1012, 1, 1), (1015, 1, 1), (1017, 2, 1), (1021, 51, 1),
   (1120, 17, 2), (1162, 27, 2), (1216, 2, 1), (1219, 6, 2), (1232, 48, 2), (1329, 38, 1),
   (4256, 38, 1), (4295, 1, 1), (4301, 1, 1), (5024, 86, 1), (7305, 1, 1), (7312, 43, 1),
   (7357, 3, 1), (7680, 75, 2), (7838, 49, 2), (7944, 8, 1), (7960, 6, 1), (7976, 8, 1),
   (7992, 8, 1), (8008, 6, 1), (8025, 4, 2), (8040, 8, 1), (8072, 8, 1), (8088, 8, 1), (8104, 8, 1),
   (8120, 5, 1), (8136, 5, 1), (8152, 4, 1), (8168, 5, 1), (8184, 5, 1), (8486, 1, 1), (8490, 2, 1),
   (8498, 1, 1), (8544, 16, 1), (8579, 1, 1), (9398, 26, 1), (11264, 48, 1), (11360, 1, 1),
   (11362, 3, 1), (11367, 3, 2), (11373, 4, 1), (11378, 1, 1), (11381, 1, 1), (11390, 3, 1),
   (11394, 49, 2), (11499, 2, 2), (11506, 1, 1), (42560, 23, 2), (42624, 14, 2), (42786, 7, 2),
   (42802, 31, 2), (42873, 2, 2), (42877, 2, 1), (42880, 4, 2), (42891, 2, 2), (42896, 2, 2),
   (42902, 10, 2), (42922, 5, 1), (42928, 5, 1), (42934, 7, 2), (42948, 4, 1), (42953, 1, 1),
   (42955, 2, 1), (42958, 8, 2), (42997, 1, 1), (65313, 26, 1), (66560, 40, 1), (66736, 36, 1),
   (66928, 11, 1), (66940, 15, 1), (66956, 7, 1), (66964, 2, 1), (68736, 51, 1), (68944, 22, 1),
   (71840, 32, 1), (93760, 32, 1), (93856, 25, 1), (125184, 34, 1)]

/-- The property `Default_Ignorable_Code_Point`. -/
def ignorableRuns : List Run :=
  [(173, 1, 1), (847, 1, 1), (1564, 1, 1), (4447, 2, 1), (6068, 2, 1), (6155, 5, 1), (8203, 5, 1),
   (8234, 5, 1), (8288, 16, 1), (12644, 1, 1), (65024, 16, 1), (65279, 1, 1), (65440, 1, 1),
   (65520, 9, 1), (113824, 4, 1), (119155, 8, 1), (917504, 4096, 1)]

/-- The property `Deprecated`. -/
def deprecatedRuns : List Run :=
  [(329, 1, 1), (1651, 1, 1), (3959, 2, 2), (6051, 2, 1), (8298, 6, 1), (9001, 2, 1),
   (917505, 1, 1)]

/-- The property `Diacritic`. -/
def diacriticRuns : List Run :=
  [(94, 2, 2), (168, 1, 1), (175, 1, 1), (180, 1, 1), (183, 2, 1), (688, 159, 1), (848, 8, 1),
   (861, 6, 1), (884, 2, 1), (890, 1, 1), (900, 2, 1), (1155, 5, 1), (1369, 1, 1), (1425, 45, 1),
   (1471, 1, 1), (1473, 2, 1), (1476, 2, 1), (1479, 1, 1), (1611, 8, 1), (1623, 2, 1), (1759, 2, 1),
   (1765, 2, 1), (1770, 3, 1), (1840, 27, 1), (1958, 11, 1), (2027, 11, 1), (2072, 2, 1),
   (2200, 8, 1), (2249, 10, 1), (2275, 28, 1), (2364, 1, 1), (2381, 1, 1), (2385, 4, 1),
   (2417, 1, 1), (2492, 1, 1), (2509, 1, 1), (2620, 1, 1), (2637, 1, 1), (2748, 1, 1), (2765, 1, 1),
   (2813, 3, 1), (2876, 1, 1), (2893, 1, 1), (2901, 1, 1), (3021, 1, 1), (3132, 1, 1), (3149, 1, 1),
   (3260, 1, 1), (3277, 1, 1), (3387, 2, 1), (3405, 1, 1), (3530, 1, 1), (3642, 1, 1), (3655, 6, 1),
   (3662, 1, 1), (3770, 1, 1), (3784, 5, 1), (3864, 2, 1), (3893, 3, 2), (3902, 2, 1), (3970, 3, 1),
   (3974, 2, 1), (4038, 1, 1), (4151, 1, 1), (4153, 2, 1), (4195, 2, 1), (4201, 5, 1), (4231, 7, 1),
   (4239, 1, 1), (4250, 2, 1), (4957, 3, 1), (5908, 2, 1), (5940, 1, 1), (6089, 11, 1),
   (6109, 1, 1), (6457, 3, 1), (6752, 1, 1), (6773, 8, 1), (6783, 1, 1), (6832, 15, 1),
   (6849, 11, 1), (6863, 15, 1), (6880, 12, 1), (6964, 1, 1), (6980, 1, 1), (7019, 9, 1),
   (7082, 2, 1), (7142, 1, 1), (7154, 2, 1), (7222, 2, 1), (7288, 6, 1), (7376, 25, 1),
   (7405, 1, 1), (7412, 1, 1), (7415, 3, 1), (7468, 63, 1), (7579, 36, 1), (7620, 12, 1),
   (7669, 11, 1), (8125, 1, 1), (8127, 3, 1), (8141, 3, 1), (8157, 3, 1), (8173, 3, 1),
   (8189, 2, 1), (11503, 3, 1), (11823, 1, 1), (12330, 6, 1), (12441, 4, 1), (12540, 1, 1),
   (42607, 1, 1), (42620, 2, 1), (42623, 1, 1), (42652, 2, 1), (42736, 2, 1), (42752, 34, 1),
   (42888, 3, 1), (42993, 1, 1), (43000, 2, 1), (43014, 1, 1), (43052, 1, 1), (43204, 1, 1),
   (43232, 18, 1), (43307, 4, 1), (43347, 1, 1), (43443, 1, 1), (43456, 1, 1), (43493, 1, 1),
   (43643, 3, 1), (43711, 4, 1), (43766, 1, 1), (43867, 5, 1), (43881, 3, 1), (44012, 2, 1),
   (64286, 1, 1), (65056, 16, 1), (65342, 2, 2), (65392, 1, 1), (65438, 2, 1), (65507, 1, 1),
   (66272, 1, 1), (67456, 6, 1), (67463, 42, 1), (67506, 9, 1), (68152, 3, 1), (68159, 1, 1),
   (68325, 2, 1), (68898, 6, 1), (68942, 1, 1), (68969, 5, 1), (69370, 1, 1), (69373, 3, 1),
   (69446, 11, 1), (69506, 4, 1), (69702, 1, 1), (69744, 1, 1), (69817, 2, 1), (69939, 2, 1),
   (70003, 1, 1), (70080, 1, 1), (70090, 3, 1), (70197, 2, 1), (70377, 2, 1), (70459, 2, 1),
   (70477, 1, 1), (70502, 7, 1), (70512, 5, 1), (70606, 3, 1), (70610, 2, 1), (70625, 2, 1),
   (70722, 1, 1), (70726, 1, 1), (70850, 2, 1), (71103, 2, 1), (71231, 1, 1), (71350, 2, 1),
   (71467, 1, 1), (71737, 2, 1), (71997, 2, 1), (72003, 1, 1), (72160, 1, 1), (72244, 1, 1),
   (72263, 1, 1), (72345, 1, 1), (72767, 1, 1), (73026, 1, 1), (73028, 2, 1), (73111, 1, 1),
   (73177, 1, 1), (73537, 2, 1), (73562, 1, 1), (78919, 15, 1), (90415, 1, 1), (92912, 5, 1),
   (92976, 7, 1), (93547, 2, 1), (94095, 17, 1), (94192, 2, 1), (110576, 4, 1), (110581, 7, 1),
   (110589, 2, 1), (118528, 46, 1), (118576, 23, 1), (119143, 3, 1), (119149, 6, 1), (119163, 8, 1),
   (119173, 7, 1), (119210, 4, 1), (122928, 62, 1), (123184, 7, 1), (123566, 1, 1), (123628, 4, 1),
   (124398, 2, 1), (125136, 7, 1), (125252, 3, 1), (125256, 3, 1)]

/-- The property `Emoji`. -/
def emojiRuns : List Run :=
  [(35, 1, 1), (42, 1, 1), (48, 10, 1), (169, 1, 1), (174, 1, 1), (8252, 1, 1), (8265, 1, 1),
   (8482, 1, 1), (8505, 1, 1), (8596, 6, 1), (8617, 2, 1), (8986, 2, 1), (9000, 1, 1), (9167, 1, 1),
   (9193, 11, 1), (9208, 3, 1), (9410, 1, 1), (9642, 2, 1), (9654, 1, 1), (9664, 1, 1),
   (9723, 4, 1), (9728, 5, 1), (9742, 1, 1), (9745, 1, 1), (9748, 2, 1), (9752, 1, 1), (9757, 1, 1),
   (9760, 1, 1), (9762, 2, 1), (9766, 1, 1), (9770, 1, 1), (9774, 2, 1), (9784, 3, 1), (9792, 2, 2),
   (9800, 12, 1), (9823, 2, 1), (9827, 1, 1), (9829, 2, 1), (9832, 1, 1), (9851, 1, 1),
   (9854, 2, 1), (9874, 6, 1), (9881, 1, 1), (9883, 2, 1), (9888, 2, 1), (9895, 1, 1), (9898, 2, 1),
   (9904, 2, 1), (9917, 2, 1), (9924, 2, 1), (9928, 1, 1), (9934, 2, 1), (9937, 1, 1), (9939, 2, 1),
   (9961, 2, 1), (9968, 6, 1), (9975, 4, 1), (9981, 1, 1), (9986, 1, 1), (9989, 1, 1), (9992, 6, 1),
   (9999, 1, 1), (10002, 3, 2), (10013, 1, 1), (10017, 1, 1), (10024, 1, 1), (10035, 2, 1),
   (10052, 1, 1), (10055, 1, 1), (10060, 2, 2), (10067, 3, 1), (10071, 1, 1), (10083, 2, 1),
   (10133, 3, 1), (10145, 1, 1), (10160, 1, 1), (10175, 1, 1), (10548, 2, 1), (11013, 3, 1),
   (11035, 2, 1), (11088, 1, 1), (11093, 1, 1), (12336, 1, 1), (12349, 1, 1), (12951, 2, 2),
   (126980, 1, 1), (127183, 1, 1), (127344, 2, 1), (127358, 2, 1), (127374, 1, 1), (127377, 10, 1),
   (127462, 26, 1), (127489, 2, 1), (127514, 1, 1), (127535, 1, 1), (127538, 9, 1), (127568, 2, 1),
   (127744, 34, 1), (127780, 112, 1), (127894, 2, 1), (127897, 3, 1), (127902, 83, 1),
   (127987, 3, 1), (127991, 263, 1), (128255, 63, 1), (128329, 6, 1), (128336, 24, 1),
   (128367, 2, 1), (128371, 8, 1), (128391, 1, 1), (128394, 4, 1), (128400, 1, 1), (128405, 2, 1),
   (128420, 2, 1), (128424, 1, 1), (128433, 2, 1), (128444, 1, 1), (128450, 3, 1), (128465, 3, 1),
   (128476, 3, 1), (128481, 2, 2), (128488, 1, 1), (128495, 1, 1), (128499, 1, 1), (128506, 86, 1),
   (128640, 70, 1), (128715, 8, 1), (128725, 4, 1), (128732, 10, 1), (128745, 1, 1), (128747, 2, 1),
   (128752, 1, 1), (128755, 10, 1), (128992, 12, 1), (129008, 1, 1), (129292, 47, 1),
   (129340, 10, 1), (129351, 185, 1), (129648, 13, 1), (129664, 11, 1), (129678, 57, 1),
   (129736, 1, 1), (129741, 16, 1), (129759, 12, 1), (129775, 10, 1)]

/-- The property `Emoji_Modifier_Base`. -/
def emojiBaseRuns : List Run :=
  [(9757, 1, 1), (9977, 1, 1), (9994, 4, 1), (127877, 1, 1), (127938, 3, 1), (127943, 1, 1),
   (127946, 3, 1), (128066, 2, 1), (128070, 11, 1), (128102, 19, 1), (128124, 1, 1), (128129, 3, 1),
   (128133, 3, 1), (128143, 2, 2), (128170, 1, 1), (128372, 2, 1), (128378, 1, 1), (128400, 1, 1),
   (128405, 2, 1), (128581, 3, 1), (128587, 5, 1), (128675, 1, 1), (128692, 3, 1), (128704, 1, 1),
   (128716, 1, 1), (129292, 1, 1), (129295, 1, 1), (129304, 8, 1), (129318, 1, 1), (129328, 10, 1),
   (129340, 3, 1), (129399, 1, 1), (129461, 2, 1), (129464, 2, 1), (129467, 1, 1), (129485, 3, 1),
   (129489, 13, 1), (129731, 3, 1), (129776, 9, 1)]

/-- The property `Emoji_Presentation`. -/
def emojiPresentationRuns : List Run :=
  [(8986, 2, 1), (9193, 4, 1), (9200, 1, 1), (9203, 1, 1), (9725, 2, 1), (9748, 2, 1),
   (9800, 12, 1), (9855, 1, 1), (9875, 1, 1), (9889, 1, 1), (9898, 2, 1), (9917, 2, 1),
   (9924, 2, 1), (9934, 1, 1), (9940, 1, 1), (9962, 1, 1), (9970, 2, 1), (9973, 1, 1), (9978, 1, 1),
   (9981, 1, 1), (9989, 1, 1), (9994, 2, 1), (10024, 1, 1), (10060, 2, 2), (10067, 3, 1),
   (10071, 1, 1), (10133, 3, 1), (10160, 1, 1), (10175, 1, 1), (11035, 2, 1), (11088, 1, 1),
   (11093, 1, 1), (126980, 1, 1), (127183, 1, 1), (127374, 1, 1), (127377, 10, 1), (127462, 26, 1),
   (127489, 1, 1), (127514, 1, 1), (127535, 1, 1), (127538, 5, 1), (127544, 3, 1), (127568, 2, 1),
   (127744, 33, 1), (127789, 9, 1), (127799, 70, 1), (127870, 22, 1), (127904, 43, 1),
   (127951, 5, 1), (127968, 17, 1), (127988, 1, 1), (127992, 71, 1), (128064, 1, 1),
   (128066, 187, 1), (128255, 63, 1), (128331, 4, 1), (128336, 24, 1), (128378, 1, 1),
   (128405, 2, 1), (128420, 1, 1), (128507, 85, 1), (128640, 70, 1), (128716, 1, 1), (128720, 3, 1),
   (128725, 4, 1), (128732, 4, 1), (128747, 2, 1), (128756, 9, 1), (128992, 12, 1), (129008, 1, 1),
   (129292, 47, 1), (129340, 10, 1), (129351, 185, 1), (129648, 13, 1), (129664, 11, 1),
   (129678, 57, 1), (129736, 1, 1), (129741, 16, 1), (129759, 12, 1), (129775, 10, 1)]

/-- The property `Extended_Pictographic`. -/
def pictographicRuns : List Run :=
  [(169, 1, 1), (174, 1, 1), (8252, 1, 1), (8265, 1, 1), (8482, 1, 1), (8505, 1, 1), (8596, 6, 1),
   (8617, 2, 1), (8986, 2, 1), (9000, 1, 1), (9167, 1, 1), (9193, 11, 1), (9208, 3, 1),
   (9410, 1, 1), (9642, 2, 1), (9654, 1, 1), (9664, 1, 1), (9723, 4, 1), (9728, 5, 1), (9742, 1, 1),
   (9745, 1, 1), (9748, 2, 1), (9752, 1, 1), (9757, 1, 1), (9760, 1, 1), (9762, 2, 1), (9766, 1, 1),
   (9770, 1, 1), (9774, 2, 1), (9784, 3, 1), (9792, 2, 2), (9800, 12, 1), (9823, 2, 1),
   (9827, 1, 1), (9829, 2, 1), (9832, 1, 1), (9851, 1, 1), (9854, 2, 1), (9874, 6, 1), (9881, 1, 1),
   (9883, 2, 1), (9888, 2, 1), (9895, 1, 1), (9898, 2, 1), (9904, 2, 1), (9917, 2, 1), (9924, 2, 1),
   (9928, 1, 1), (9934, 2, 1), (9937, 1, 1), (9939, 2, 1), (9961, 2, 1), (9968, 6, 1), (9975, 4, 1),
   (9981, 1, 1), (9986, 1, 1), (9989, 1, 1), (9992, 6, 1), (9999, 1, 1), (10002, 3, 2),
   (10013, 1, 1), (10017, 1, 1), (10024, 1, 1), (10035, 2, 1), (10052, 1, 1), (10055, 1, 1),
   (10060, 2, 2), (10067, 3, 1), (10071, 1, 1), (10083, 2, 1), (10133, 3, 1), (10145, 1, 1),
   (10160, 1, 1), (10175, 1, 1), (10548, 2, 1), (11013, 3, 1), (11035, 2, 1), (11088, 1, 1),
   (11093, 1, 1), (12336, 1, 1), (12349, 1, 1), (12951, 2, 2), (126980, 1, 1), (127020, 4, 1),
   (127124, 12, 1), (127151, 2, 1), (127168, 1, 1), (127183, 2, 1), (127222, 10, 1), (127344, 2, 1),
   (127358, 2, 1), (127374, 1, 1), (127377, 10, 1), (127406, 56, 1), (127489, 15, 1),
   (127514, 1, 1), (127535, 1, 1), (127538, 9, 1), (127548, 4, 1), (127561, 23, 1),
   (127590, 188, 1), (127780, 112, 1), (127894, 2, 1), (127897, 3, 1), (127902, 83, 1),
   (127987, 3, 1), (127991, 4, 1), (128000, 254, 1), (128255, 63, 1), (128329, 6, 1),
   (128336, 24, 1), (128367, 2, 1), (128371, 8, 1), (128391, 1, 1), (128394, 4, 1), (128400, 1, 1),
   (128405, 2, 1), (128420, 2, 1), (128424, 1, 1), (128433, 2, 1), (128444, 1, 1), (128450, 3, 1),
   (128465, 3, 1), (128476, 3, 1), (128481, 2, 2), (128488, 1, 1), (128495, 1, 1), (128499, 1, 1),
   (128506, 86, 1), (128640, 70, 1), (128715, 8, 1), (128725, 17, 1), (128745, 1, 1),
   (128747, 6, 1), (128755, 13, 1), (128986, 38, 1), (129036, 4, 1), (129096, 8, 1), (129114, 6, 1),
   (129160, 8, 1), (129198, 2, 1), (129212, 4, 1), (129218, 14, 1), (129241, 39, 1),
   (129292, 47, 1), (129340, 10, 1), (129351, 185, 1), (129624, 8, 1), (129646, 146, 1),
   (130048, 1022, 1)]

/-- The property `Extender`. -/
def extenderRuns : List Run :=
  [(183, 1, 1), (720, 2, 1), (1600, 1, 1), (2042, 1, 1), (2673, 1, 1), (2811, 1, 1), (2901, 1, 1),
   (3654, 1, 1), (3782, 1, 1), (6154, 1, 1), (6211, 1, 1), (6823, 1, 1), (7222, 1, 1), (7291, 1, 1),
   (12293, 1, 1), (12337, 5, 1), (12445, 2, 1), (12540, 3, 1), (40981, 1, 1), (42508, 1, 1),
   (43471, 1, 1), (43494, 1, 1), (43632, 1, 1), (43741, 1, 1), (43763, 2, 1), (65392, 1, 1),
   (67457, 2, 1), (68942, 1, 1), (68970, 1, 1), (68975, 1, 1), (70199, 1, 1), (70493, 1, 1),
   (70610, 2, 1), (71110, 3, 1), (72344, 1, 1), (73177, 1, 1), (92994, 2, 1), (94176, 2, 1),
   (94179, 1, 1), (94194, 2, 1), (123196, 2, 1), (124399, 1, 1), (125252, 3, 1)]

/-- The characters of the property `Grapheme_Extend` that are spacing marks or format characters. -/
def otherExtendRuns : List Run :=
  [(2494, 1, 1), (2519, 1, 1), (2878, 1, 1), (2903, 1, 1), (3006, 1, 1), (3031, 1, 1), (3264, 2, 2),
   (3271, 2, 1), (3274, 2, 1), (3285, 2, 1), (3390, 1, 1), (3415, 1, 1), (3535, 1, 1), (3551, 1, 1),
   (5909, 1, 1), (5940, 1, 1), (6965, 1, 1), (6971, 2, 2), (6979, 2, 1), (7082, 1, 1), (7154, 2, 1),
   (8204, 1, 1), (12334, 2, 1), (43347, 1, 1), (43456, 1, 1), (65438, 2, 1), (70080, 1, 1),
   (70197, 1, 1), (70462, 1, 1), (70477, 1, 1), (70487, 1, 1), (70584, 1, 1), (70594, 1, 1),
   (70597, 1, 1), (70599, 3, 1), (70607, 1, 1), (70832, 1, 1), (70845, 1, 1), (71087, 1, 1),
   (71350, 1, 1), (71984, 1, 1), (71997, 1, 1), (73537, 1, 1), (94192, 2, 1), (119141, 2, 1),
   (119149, 6, 1), (917536, 96, 1)]

/-- The property `Ideographic`. -/
def ideographicRuns : List Run :=
  [(12294, 2, 1), (12321, 9, 1), (12344, 3, 1), (13312, 6592, 1), (19968, 20992, 1),
   (63744, 366, 1), (64112, 106, 1), (94180, 1, 1), (94194, 5, 1), (94208, 7382, 1),
   (101631, 32, 1), (101760, 115, 1), (110960, 396, 1), (131072, 42720, 1), (173824, 4382, 1),
   (178208, 5774, 1), (183984, 7473, 1), (191472, 622, 1), (194560, 542, 1), (196608, 4939, 1),
   (201552, 8490, 1)]

/-- The property `Logical_Order_Exception`. -/
def logicalOrderRuns : List Run :=
  [(3648, 5, 1), (3776, 5, 1), (6581, 3, 1), (6586, 1, 1), (43701, 2, 1), (43705, 1, 1),
   (43707, 2, 1)]

/-- The characters of the property `Math` that are no math symbols. -/
def otherMathRuns : List Run :=
  [(94, 1, 1), (976, 3, 1), (981, 1, 1), (1008, 2, 1), (1012, 2, 1), (8214, 1, 1), (8242, 3, 1),
   (8256, 1, 1), (8289, 4, 1), (8317, 2, 1), (8333, 2, 1), (8400, 13, 1), (8417, 1, 1),
   (8421, 2, 1), (8427, 5, 1), (8450, 1, 1), (8455, 1, 1), (8458, 10, 1), (8469, 1, 1),
   (8473, 5, 1), (8484, 1, 1), (8488, 2, 1), (8492, 2, 1), (8495, 3, 1), (8499, 6, 1), (8508, 4, 1),
   (8517, 5, 1), (8597, 5, 1), (8604, 4, 1), (8609, 2, 1), (8612, 2, 1), (8615, 1, 1), (8617, 5, 1),
   (8624, 2, 1), (8630, 2, 1), (8636, 18, 1), (8656, 2, 1), (8659, 1, 1), (8661, 7, 1),
   (8669, 1, 1), (8676, 2, 1), (8968, 4, 1), (9140, 2, 1), (9143, 1, 1), (9168, 1, 1), (9186, 1, 1),
   (9632, 2, 1), (9646, 9, 1), (9660, 5, 1), (9670, 2, 1), (9674, 2, 1), (9679, 5, 1), (9698, 2, 2),
   (9703, 6, 1), (9733, 2, 1), (9792, 2, 2), (9824, 4, 1), (9837, 2, 1), (10181, 2, 1),
   (10214, 10, 1), (10627, 22, 1), (10712, 4, 1), (10748, 2, 1), (65121, 2, 2), (65128, 1, 1),
   (65340, 2, 2), (119808, 85, 1), (119894, 71, 1), (119966, 2, 1), (119970, 1, 1), (119973, 2, 1),
   (119977, 4, 1), (119982, 12, 1), (119995, 1, 1), (119997, 7, 1), (120005, 65, 1), (120071, 4, 1),
   (120077, 8, 1), (120086, 7, 1), (120094, 28, 1), (120123, 4, 1), (120128, 5, 1), (120134, 1, 1),
   (120138, 7, 1), (120146, 340, 1), (120488, 25, 1), (120514, 25, 1), (120540, 31, 1),
   (120572, 25, 1), (120598, 31, 1), (120630, 25, 1), (120656, 31, 1), (120688, 25, 1),
   (120714, 31, 1), (120746, 25, 1), (120772, 8, 1), (120782, 50, 1), (126464, 4, 1),
   (126469, 27, 1), (126497, 2, 1), (126500, 1, 1), (126503, 1, 1), (126505, 10, 1), (126516, 4, 1),
   (126521, 2, 2), (126530, 1, 1), (126535, 3, 2), (126541, 3, 1), (126545, 2, 1), (126548, 1, 1),
   (126551, 5, 2), (126561, 2, 1), (126564, 1, 1), (126567, 4, 1), (126572, 7, 1), (126580, 4, 1),
   (126585, 4, 1), (126590, 1, 1), (126592, 10, 1), (126603, 17, 1), (126625, 3, 1), (126629, 5, 1),
   (126635, 17, 1)]

/-- The property `Noncharacter_Code_Point`. -/
def nonCharacterRuns : List Run :=
  [(64976, 32, 1), (65534, 2, 1), (131070, 2, 1), (196606, 2, 1), (262142, 2, 1), (327678, 2, 1),
   (393214, 2, 1), (458750, 2, 1), (524286, 2, 1), (589822, 2, 1), (655358, 2, 1), (720894, 2, 1),
   (786430, 2, 1), (851966, 2, 1), (917502, 2, 1), (983038, 2, 1), (1048574, 2, 1), (1114110, 2, 1)]

/-- The property `Pattern_Syntax`. -/
def patternSyntaxRuns : List Run :=
  [(33, 15, 1), (58, 7, 1), (91, 4, 1), (96, 1, 1), (123, 4, 1), (161, 7, 1), (169, 1, 1),
   (171, 2, 1), (174, 1, 1), (176, 2, 1), (182, 1, 1), (187, 1, 1), (191, 1, 1), (215, 1, 1),
   (247, 1, 1), (8208, 24, 1), (8240, 15, 1), (8257, 19, 1), (8277, 10, 1), (8592, 720, 1),
   (9472, 630, 1), (10132, 1132, 1), (11776, 128, 1), (12289, 3, 1), (12296, 25, 1), (12336, 1, 1),
   (64830, 2, 1), (65093, 2, 1)]

/-- The property `Quotation_Mark`. -/
def quotationRuns : List Run :=
  [(34, 1, 1), (39, 1, 1), (171, 1, 1), (187, 1, 1), (8216, 8, 1), (8249, 2, 1), (11842, 1, 1),
   (12300, 4, 1), (12317, 3, 1), (65089, 4, 1), (65282, 1, 1), (65287, 1, 1), (65378, 2, 1)]

/-- The property `Sentence_Terminal`. -/
def sentenceEndRuns : List Run :=
  [(33, 1, 1), (46, 1, 1), (63, 1, 1), (1417, 1, 1), (1565, 3, 1), (1748, 1, 1), (1792, 3, 1),
   (2041, 1, 1), (2103, 2, 2), (2109, 2, 1), (2404, 2, 1), (4170, 2, 1), (4962, 1, 1), (4967, 2, 1),
   (5742, 1, 1), (5941, 2, 1), (6100, 2, 1), (6147, 1, 1), (6153, 1, 1), (6468, 2, 1), (6824, 4, 1),
   (6990, 2, 1), (7002, 2, 1), (7006, 2, 1), (7037, 3, 1), (7227, 2, 1), (7294, 2, 1), (8228, 1, 1),
   (8252, 2, 1), (8263, 3, 1), (11513, 3, 1), (11822, 1, 1), (11836, 1, 1), (11859, 2, 1),
   (12290, 1, 1), (42239, 1, 1), (42510, 2, 1), (42739, 1, 1), (42743, 1, 1), (43126, 2, 1),
   (43214, 2, 1), (43311, 1, 1), (43464, 2, 1), (43613, 3, 1), (43760, 2, 1), (44011, 1, 1),
   (65042, 1, 1), (65045, 2, 1), (65106, 1, 1), (65110, 2, 1), (65281, 1, 1), (65294, 1, 1),
   (65311, 1, 1), (65377, 1, 1), (68182, 2, 1), (69461, 5, 1), (69510, 4, 1), (69703, 2, 1),
   (69822, 4, 1), (69953, 3, 1), (70085, 2, 1), (70093, 1, 1), (70110, 2, 1), (70200, 2, 1),
   (70203, 2, 1), (70313, 1, 1), (70612, 2, 1), (70731, 2, 1), (71106, 2, 1), (71113, 15, 1),
   (71233, 2, 1), (71484, 3, 1), (72004, 2, 2), (72258, 2, 1), (72347, 2, 1), (72769, 2, 1),
   (73463, 2, 1), (73539, 2, 1), (92782, 2, 1), (92917, 1, 1), (92983, 2, 1), (92996, 1, 1),
   (93550, 2, 1), (93848, 1, 1), (113823, 1, 1), (121480, 1, 1)]

/-- The property `Soft_Dotted`. -/
def softDottedRuns : List Run :=
  [(105, 2, 1), (303, 1, 1), (585, 1, 1), (616, 1, 1), (669, 1, 1), (690, 1, 1), (1011, 1, 1),
   (1110, 2, 2), (7522, 1, 1), (7574, 1, 1), (7588, 1, 1), (7592, 1, 1), (7725, 1, 1), (7883, 1, 1),
   (8305, 1, 1), (8520, 2, 1), (11388, 1, 1), (119842, 2, 1), (119894, 2, 1), (119946, 2, 1),
   (119998, 2, 1), (120050, 2, 1), (120102, 2, 1), (120154, 2, 1), (120206, 2, 1), (120258, 2, 1),
   (120310, 2, 1), (120362, 2, 1), (120414, 2, 1), (120466, 2, 1), (122650, 1, 1), (122956, 2, 1),
   (122984, 1, 1)]

/-- The property `Terminal_Punctuation`. -/
def terminalRuns : List Run :=
  [(33, 1, 1), (44, 2, 2), (58, 2, 1), (63, 1, 1), (894, 1, 1), (903, 1, 1), (1417, 1, 1),
   (1475, 1, 1), (1548, 1, 1), (1563, 1, 1), (1565, 3, 1), (1748, 1, 1), (1792, 11, 1),
   (1804, 1, 1), (2040, 2, 1), (2096, 6, 1), (2103, 8, 1), (2142, 1, 1), (2404, 2, 1), (3674, 2, 1),
   (3848, 1, 1), (3853, 6, 1), (4170, 2, 1), (4961, 8, 1), (5742, 1, 1), (5867, 3, 1), (5941, 2, 1),
   (6100, 3, 1), (6106, 1, 1), (6146, 4, 1), (6152, 2, 1), (6468, 2, 1), (6824, 4, 1), (6990, 2, 1),
   (7002, 2, 1), (7005, 3, 1), (7037, 3, 1), (7227, 5, 1), (7294, 2, 1), (8228, 1, 1), (8252, 2, 1),
   (8263, 3, 1), (11513, 3, 1), (11822, 1, 1), (11836, 1, 1), (11841, 1, 1), (11852, 1, 1),
   (11854, 2, 1), (11859, 2, 1), (12289, 2, 1), (42238, 2, 1), (42509, 3, 1), (42739, 5, 1),
   (43126, 2, 1), (43214, 2, 1), (43311, 1, 1), (43463, 3, 1), (43613, 3, 1), (43743, 1, 1),
   (43760, 2, 1), (44011, 1, 1), (65042, 1, 1), (65045, 2, 1), (65104, 3, 1), (65108, 4, 1),
   (65281, 1, 1), (65292, 2, 2), (65306, 2, 1), (65311, 1, 1), (65377, 1, 1), (65380, 1, 1),
   (66463, 1, 1), (66512, 1, 1), (67671, 1, 1), (67871, 1, 1), (68182, 2, 1), (68336, 6, 1),
   (68410, 6, 1), (68505, 4, 1), (69461, 5, 1), (69510, 4, 1), (69703, 7, 1), (69822, 4, 1),
   (69953, 3, 1), (70085, 2, 1), (70093, 1, 1), (70110, 2, 1), (70200, 5, 1), (70313, 1, 1),
   (70612, 2, 1), (70731, 3, 1), (70746, 2, 1), (71106, 4, 1), (71113, 15, 1), (71233, 2, 1),
   (71484, 3, 1), (72004, 2, 2), (72258, 2, 1), (72347, 2, 1), (72353, 2, 1), (72769, 3, 1),
   (72817, 1, 1), (73463, 2, 1), (73539, 2, 1), (74864, 5, 1), (92782, 2, 1), (92917, 1, 1),
   (92983, 3, 1), (92996, 1, 1), (93550, 2, 1), (93847, 2, 1), (113823, 1, 1), (121479, 4, 1)]

/-- The property `Unified_Ideograph`. -/
def unifiedIdeographRuns : List Run :=
  [(13312, 6592, 1), (19968, 20992, 1), (64014, 2, 1), (64017, 1, 1), (64019, 2, 1), (64031, 2, 2),
   (64035, 2, 1), (64039, 3, 1), (131072, 42720, 1), (173824, 4382, 1), (178208, 5774, 1),
   (183984, 7473, 1), (191472, 622, 1), (196608, 4939, 1), (201552, 8490, 1)]

end Runbook.Text
