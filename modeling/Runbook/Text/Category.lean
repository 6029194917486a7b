import Runbook.Text.Basic
import Runbook.Text.Blank
import Runbook.Text.Run

/-!
# Kinds of characters

The general categories of Unicode, the alphabetic characters, and the characters of words.
-/

namespace Runbook.Text

/-- The general category `Lu`: uppercase letters. -/
def runsLu : List Run :=
  [(65, 26, 1), (192, 23, 1), (216, 7, 1), (256, 28, 2), (313, 8, 2), (330, 24, 2), (377, 3, 2),
   (385, 2, 1), (388, 2, 2), (391, 2, 2), (394, 2, 1), (398, 4, 1), (403, 2, 1), (406, 3, 1),
   (412, 2, 1), (415, 2, 1), (418, 3, 2), (423, 2, 2), (428, 2, 2), (431, 2, 2), (434, 2, 1),
   (437, 2, 2), (440, 1, 1), (444, 1, 1), (452, 1, 1), (455, 1, 1), (458, 1, 1), (461, 8, 2),
   (478, 9, 2), (497, 1, 1), (500, 2, 2), (503, 2, 1), (506, 29, 2), (570, 2, 1), (573, 2, 1),
   (577, 2, 2), (580, 3, 1), (584, 4, 2), (880, 2, 2), (886, 1, 1), (895, 1, 1), (902, 2, 2),
   (905, 2, 1), (908, 2, 2), (911, 2, 2), (914, 16, 1), (931, 9, 1), (975, 1, 1), (978, 3, 1),
   (984, 12, 2), (1012, 1, 1), (1015, 2, 2), (1018, 1, 1), (1021, 51, 1), (1120, 17, 2),
   (1162, 28, 2), (1217, 7, 2), (1232, 48, 2), (1329, 38, 1), (4256, 38, 1), (4295, 1, 1),
   (4301, 1, 1), (5024, 86, 1), (7305, 1, 1), (7312, 43, 1), (7357, 3, 1), (7680, 75, 2),
   (7838, 49, 2), (7944, 8, 1), (7960, 6, 1), (7976, 8, 1), (7992, 8, 1), (8008, 6, 1),
   (8025, 4, 2), (8040, 8, 1), (8120, 4, 1), (8136, 4, 1), (8152, 4, 1), (8168, 5, 1),
   (8184, 4, 1), (8450, 1, 1), (8455, 1, 1), (8459, 3, 1), (8464, 3, 1), (8469, 1, 1),
   (8473, 5, 1), (8484, 4, 2), (8491, 3, 1), (8496, 4, 1), (8510, 2, 1), (8517, 1, 1),
   (8579, 1, 1), (11264, 48, 1), (11360, 2, 2), (11363, 2, 1), (11367, 4, 2), (11374, 3, 1),
   (11378, 1, 1), (11381, 1, 1), (11390, 3, 1), (11394, 49, 2), (11499, 2, 2), (11506, 1, 1),
   (42560, 23, 2), (42624, 14, 2), (42786, 7, 2), (42802, 31, 2), (42873, 3, 2), (42878, 5, 2),
   (42891, 2, 2), (42896, 2, 2), (42902, 11, 2), (42923, 4, 1), (42928, 5, 1), (42934, 8, 2),
   (42949, 3, 1), (42953, 2, 2), (42956, 9, 2), (42997, 1, 1), (65313, 26, 1), (66560, 40, 1),
   (66736, 36, 1), (66928, 11, 1), (66940, 15, 1), (66956, 7, 1), (66964, 2, 1), (68736, 51, 1),
   (68944, 22, 1), (71840, 32, 1), (93760, 32, 1), (93856, 25, 1), (119808, 26, 1),
   (119860, 26, 1), (119912, 26, 1), (119964, 2, 2), (119967, 1, 1), (119970, 1, 1),
   (119973, 2, 1), (119977, 4, 1), (119982, 8, 1), (120016, 26, 1), (120068, 2, 1), (120071, 4, 1),
   (120077, 8, 1), (120086, 7, 1), (120120, 2, 1), (120123, 4, 1), (120128, 5, 1), (120134, 1, 1),
   (120138, 7, 1), (120172, 26, 1), (120224, 26, 1), (120276, 26, 1), (120328, 26, 1),
   (120380, 26, 1), (120432, 26, 1), (120488, 25, 1), (120546, 25, 1), (120604, 25, 1),
   (120662, 25, 1), (120720, 25, 1), (120778, 1, 1), (125184, 34, 1)]

/-- The general category `Ll`: lowercase letters. -/
def runsLl : List Run :=
  [(97, 26, 1), (181, 1, 1), (223, 24, 1), (248, 8, 1), (257, 28, 2), (312, 9, 2), (329, 24, 2),
   (378, 3, 2), (383, 2, 1), (387, 2, 2), (392, 1, 1), (396, 2, 1), (402, 1, 1), (405, 1, 1),
   (409, 3, 1), (414, 1, 1), (417, 3, 2), (424, 2, 2), (427, 2, 2), (432, 1, 1), (436, 2, 2),
   (441, 2, 1), (445, 3, 1), (454, 1, 1), (457, 1, 1), (460, 9, 2), (477, 10, 2), (496, 1, 1),
   (499, 2, 2), (505, 30, 2), (564, 6, 1), (572, 1, 1), (575, 2, 1), (578, 1, 1), (583, 5, 2),
   (592, 68, 1), (662, 26, 1), (881, 2, 2), (887, 1, 1), (891, 3, 1), (912, 1, 1), (940, 35, 1),
   (976, 2, 1), (981, 3, 1), (985, 12, 2), (1008, 4, 1), (1013, 1, 1), (1016, 1, 1), (1019, 2, 1),
   (1072, 48, 1), (1121, 17, 2), (1163, 27, 2), (1218, 7, 2), (1231, 49, 2), (1376, 41, 1),
   (4304, 43, 1), (4349, 3, 1), (5112, 6, 1), (7296, 9, 1), (7306, 1, 1), (7424, 44, 1),
   (7531, 13, 1), (7545, 34, 1), (7681, 75, 2), (7830, 8, 1), (7839, 49, 2), (7936, 8, 1),
   (7952, 6, 1), (7968, 8, 1), (7984, 8, 1), (8000, 6, 1), (8016, 8, 1), (8032, 8, 1),
   (8048, 14, 1), (8064, 8, 1), (8080, 8, 1), (8096, 8, 1), (8112, 5, 1), (8118, 2, 1),
   (8126, 1, 1), (8130, 3, 1), (8134, 2, 1), (8144, 4, 1), (8150, 2, 1), (8160, 8, 1),
   (8178, 3, 1), (8182, 2, 1), (8458, 1, 1), (8462, 2, 1), (8467, 1, 1), (8495, 1, 1),
   (8500, 1, 1), (8505, 1, 1), (8508, 2, 1), (8518, 4, 1), (8526, 1, 1), (8580, 1, 1),
   (11312, 48, 1), (11361, 1, 1), (11365, 2, 1), (11368, 3, 2), (11377, 2, 2), (11380, 2, 2),
   (11383, 5, 1), (11393, 50, 2), (11492, 1, 1), (11500, 2, 2), (11507, 1, 1), (11520, 38, 1),
   (11559, 1, 1), (11565, 1, 1), (42561, 23, 2), (42625, 14, 2), (42787, 7, 2), (42800, 2, 1),
   (42803, 32, 2), (42866, 7, 1), (42874, 2, 2), (42879, 5, 2), (42892, 2, 2), (42897, 2, 2),
   (42900, 2, 1), (42903, 10, 2), (42927, 1, 1), (42933, 8, 2), (42952, 2, 2), (42957, 8, 2),
   (42998, 1, 1), (43002, 1, 1), (43824, 43, 1), (43872, 9, 1), (43888, 80, 1), (64256, 7, 1),
   (64275, 5, 1), (65345, 26, 1), (66600, 40, 1), (66776, 36, 1), (66967, 11, 1), (66979, 15, 1),
   (66995, 7, 1), (67003, 2, 1), (68800, 51, 1), (68976, 22, 1), (71872, 32, 1), (93792, 32, 1),
   (93883, 25, 1), (119834, 26, 1), (119886, 7, 1), (119894, 18, 1), (119938, 26, 1),
   (119990, 4, 1), (119995, 2, 2), (119998, 6, 1), (120005, 11, 1), (120042, 26, 1),
   (120094, 26, 1), (120146, 26, 1), (120198, 26, 1), (120250, 26, 1), (120302, 26, 1),
   (120354, 26, 1), (120406, 26, 1), (120458, 28, 1), (120514, 25, 1), (120540, 6, 1),
   (120572, 25, 1), (120598, 6, 1), (120630, 25, 1), (120656, 6, 1), (120688, 25, 1),
   (120714, 6, 1), (120746, 25, 1), (120772, 6, 1), (120779, 1, 1), (122624, 10, 1),
   (122635, 20, 1), (122661, 6, 1), (125218, 34, 1)]

/-- The general category `Lt`: titlecase letters. -/
def runsLt : List Run :=
  [(453, 1, 1), (456, 1, 1), (459, 1, 1), (498, 1, 1), (8072, 8, 1), (8088, 8, 1), (8104, 8, 1),
   (8124, 1, 1), (8140, 1, 1), (8188, 1, 1)]

/-- The general category `Lm`: modifier letters. -/
def runsLm : List Run :=
  [(688, 18, 1), (710, 12, 1), (736, 5, 1), (748, 2, 2), (884, 1, 1), (890, 1, 1), (1369, 1, 1),
   (1600, 1, 1), (1765, 2, 1), (2036, 2, 1), (2042, 1, 1), (2074, 1, 1), (2084, 1, 1),
   (2088, 1, 1), (2249, 1, 1), (2417, 1, 1), (3654, 1, 1), (3782, 1, 1), (4348, 1, 1),
   (6103, 1, 1), (6211, 1, 1), (6823, 1, 1), (7288, 6, 1), (7468, 63, 1), (7544, 1, 1),
   (7579, 37, 1), (8305, 1, 1), (8319, 1, 1), (8336, 13, 1), (11388, 2, 1), (11631, 1, 1),
   (11823, 1, 1), (12293, 1, 1), (12337, 5, 1), (12347, 1, 1), (12445, 2, 1), (12540, 3, 1),
   (40981, 1, 1), (42232, 6, 1), (42508, 1, 1), (42623, 1, 1), (42652, 2, 1), (42775, 9, 1),
   (42864, 1, 1), (42888, 1, 1), (42993, 4, 1), (43000, 2, 1), (43471, 1, 1), (43494, 1, 1),
   (43632, 1, 1), (43741, 1, 1), (43763, 2, 1), (43868, 4, 1), (43881, 1, 1), (65392, 1, 1),
   (65438, 2, 1), (67456, 6, 1), (67463, 42, 1), (67506, 9, 1), (68942, 1, 1), (68975, 1, 1),
   (69317, 1, 1), (73177, 1, 1), (92992, 4, 1), (93504, 3, 1), (93547, 2, 1), (94099, 13, 1),
   (94176, 2, 1), (94179, 1, 1), (94194, 2, 1), (110576, 4, 1), (110581, 7, 1), (110589, 2, 1),
   (122928, 62, 1), (123191, 7, 1), (124139, 1, 1), (124671, 1, 1), (125259, 1, 1)]

/-- The general category `Lo`: other letters. -/
def runsLo : List Run :=
  [(170, 1, 1), (186, 1, 1), (443, 1, 1), (448, 4, 1), (660, 2, 1), (1488, 27, 1), (1519, 4, 1),
   (1568, 32, 1), (1601, 10, 1), (1646, 2, 1), (1649, 99, 1), (1749, 1, 1), (1774, 2, 1),
   (1786, 3, 1), (1791, 1, 1), (1808, 2, 2), (1811, 29, 1), (1869, 89, 1), (1969, 1, 1),
   (1994, 33, 1), (2048, 22, 1), (2112, 25, 1), (2144, 11, 1), (2160, 24, 1), (2185, 7, 1),
   (2208, 41, 1), (2308, 54, 1), (2365, 1, 1), (2384, 1, 1), (2392, 10, 1), (2418, 15, 1),
   (2437, 8, 1), (2447, 2, 1), (2451, 22, 1), (2474, 7, 1), (2482, 1, 1), (2486, 4, 1),
   (2493, 1, 1), (2510, 1, 1), (2524, 2, 1), (2527, 3, 1), (2544, 2, 1), (2556, 1, 1),
   (2565, 6, 1), (2575, 2, 1), (2579, 22, 1), (2602, 7, 1), (2610, 2, 1), (2613, 2, 1),
   (2616, 2, 1), (2649, 4, 1), (2654, 1, 1), (2674, 3, 1), (2693, 9, 1), (2703, 3, 1),
   (2707, 22, 1), (2730, 7, 1), (2738, 2, 1), (2741, 5, 1), (2749, 1, 1), (2768, 1, 1),
   (2784, 2, 1), (2809, 1, 1), (2821, 8, 1), (2831, 2, 1), (2835, 22, 1), (2858, 7, 1),
   (2866, 2, 1), (2869, 5, 1), (2877, 1, 1), (2908, 2, 1), (2911, 3, 1), (2929, 1, 1),
   (2947, 2, 2), (2950, 5, 1), (2958, 3, 1), (2962, 4, 1), (2969, 2, 1), (2972, 2, 2),
   (2975, 1, 1), (2979, 2, 1), (2984, 3, 1), (2990, 12, 1), (3024, 1, 1), (3077, 8, 1),
   (3086, 3, 1), (3090, 23, 1), (3114, 16, 1), (3133, 1, 1), (3160, 3, 1), (3164, 2, 1),
   (3168, 2, 1), (3200, 1, 1), (3205, 8, 1), (3214, 3, 1), (3218, 23, 1), (3242, 10, 1),
   (3253, 5, 1), (3261, 1, 1), (3292, 3, 1), (3296, 2, 1), (3313, 2, 1), (3332, 9, 1),
   (3342, 3, 1), (3346, 41, 1), (3389, 1, 1), (3406, 1, 1), (3412, 3, 1), (3423, 3, 1),
   (3450, 6, 1), (3461, 18, 1), (3482, 24, 1), (3507, 9, 1), (3517, 1, 1), (3520, 7, 1),
   (3585, 48, 1), (3634, 2, 1), (3648, 6, 1), (3713, 2, 1), (3716, 2, 2), (3719, 4, 1),
   (3724, 24, 1), (3749, 2, 2), (3752, 9, 1), (3762, 2, 1), (3773, 1, 1), (3776, 5, 1),
   (3804, 4, 1), (3840, 1, 1), (3904, 8, 1), (3913, 36, 1), (3976, 5, 1), (4096, 43, 1),
   (4159, 1, 1), (4176, 6, 1), (4186, 4, 1), (4193, 1, 1), (4197, 2, 1), (4206, 3, 1),
   (4213, 13, 1), (4238, 1, 1), (4352, 329, 1), (4682, 4, 1), (4688, 7, 1), (4696, 2, 2),
   (4699, 3, 1), (4704, 41, 1), (4746, 4, 1), (4752, 33, 1), (4786, 4, 1), (4792, 7, 1),
   (4800, 2, 2), (4803, 3, 1), (4808, 15, 1), (4824, 57, 1), (4882, 4, 1), (4888, 67, 1),
   (4992, 16, 1), (5121, 620, 1), (5743, 17, 1), (5761, 26, 1), (5792, 75, 1), (5873, 8, 1),
   (5888, 18, 1), (5919, 19, 1), (5952, 18, 1), (5984, 13, 1), (5998, 3, 1), (6016, 52, 1),
   (6108, 1, 1), (6176, 35, 1), (6212, 53, 1), (6272, 5, 1), (6279, 34, 1), (6314, 1, 1),
   (6320, 70, 1), (6400, 31, 1), (6480, 30, 1), (6512, 5, 1), (6528, 44, 1), (6576, 26, 1),
   (6656, 23, 1), (6688, 53, 1), (6917, 47, 1), (6981, 8, 1), (7043, 30, 1), (7086, 2, 1),
   (7098, 44, 1), (7168, 36, 1), (7245, 3, 1), (7258, 30, 1), (7401, 4, 1), (7406, 6, 1),
   (7413, 2, 1), (7418, 1, 1), (8501, 4, 1), (11568, 56, 1), (11648, 23, 1), (11680, 7, 1),
   (11688, 7, 1), (11696, 7, 1), (11704, 7, 1), (11712, 7, 1), (11720, 7, 1), (11728, 7, 1),
   (11736, 7, 1), (12294, 1, 1), (12348, 1, 1), (12353, 86, 1), (12447, 2, 2), (12450, 89, 1),
   (12543, 1, 1), (12549, 43, 1), (12593, 94, 1), (12704, 32, 1), (12784, 16, 1), (13312, 6592, 1),
   (19968, 21013, 1), (40982, 1143, 1), (42192, 40, 1), (42240, 268, 1), (42512, 16, 1),
   (42538, 2, 1), (42606, 1, 1), (42656, 70, 1), (42895, 1, 1), (42999, 1, 1), (43003, 7, 1),
   (43011, 3, 1), (43015, 4, 1), (43020, 23, 1), (43072, 52, 1), (43138, 50, 1), (43250, 6, 1),
   (43259, 2, 2), (43262, 1, 1), (43274, 28, 1), (43312, 23, 1), (43360, 29, 1), (43396, 47, 1),
   (43488, 5, 1), (43495, 9, 1), (43514, 5, 1), (43520, 41, 1), (43584, 3, 1), (43588, 8, 1),
   (43616, 16, 1), (43633, 6, 1), (43642, 1, 1), (43646, 50, 1), (43697, 1, 1), (43701, 2, 1),
   (43705, 5, 1), (43712, 2, 2), (43739, 2, 1), (43744, 11, 1), (43762, 1, 1), (43777, 6, 1),
   (43785, 6, 1), (43793, 6, 1), (43808, 7, 1), (43816, 7, 1), (43968, 35, 1), (44032, 11172, 1),
   (55216, 23, 1), (55243, 49, 1), (63744, 366, 1), (64112, 106, 1), (64285, 2, 2), (64288, 9, 1),
   (64298, 13, 1), (64312, 5, 1), (64318, 2, 2), (64321, 2, 2), (64324, 2, 2), (64327, 107, 1),
   (64467, 363, 1), (64848, 64, 1), (64914, 54, 1), (65008, 12, 1), (65136, 5, 1), (65142, 135, 1),
   (65382, 10, 1), (65393, 45, 1), (65440, 31, 1), (65474, 6, 1), (65482, 6, 1), (65490, 6, 1),
   (65498, 3, 1), (65536, 12, 1), (65549, 26, 1), (65576, 19, 1), (65596, 2, 1), (65599, 15, 1),
   (65616, 14, 1), (65664, 123, 1), (66176, 29, 1), (66208, 49, 1), (66304, 32, 1), (66349, 20, 1),
   (66370, 8, 1), (66384, 38, 1), (66432, 30, 1), (66464, 36, 1), (66504, 8, 1), (66640, 78, 1),
   (66816, 40, 1), (66864, 52, 1), (67008, 52, 1), (67072, 311, 1), (67392, 22, 1), (67424, 8, 1),
   (67584, 6, 1), (67592, 2, 2), (67595, 43, 1), (67639, 2, 1), (67644, 1, 1), (67647, 23, 1),
   (67680, 23, 1), (67712, 31, 1), (67808, 19, 1), (67828, 2, 1), (67840, 22, 1), (67872, 26, 1),
   (67904, 26, 1), (67968, 56, 1), (68030, 2, 1), (68096, 1, 1), (68112, 4, 1), (68117, 3, 1),
   (68121, 29, 1), (68192, 29, 1), (68224, 29, 1), (68288, 8, 1), (68297, 28, 1), (68352, 54, 1),
   (68416, 22, 1), (68448, 19, 1), (68480, 18, 1), (68608, 73, 1), (68864, 36, 1), (68938, 4, 1),
   (68943, 1, 1), (69248, 42, 1), (69296, 2, 1), (69314, 3, 1), (69318, 2, 1), (69376, 29, 1),
   (69415, 1, 1), (69424, 22, 1), (69488, 18, 1), (69552, 21, 1), (69600, 23, 1), (69635, 53, 1),
   (69745, 2, 1), (69749, 1, 1), (69763, 45, 1), (69840, 25, 1), (69891, 36, 1), (69956, 1, 1),
   (69959, 1, 1), (69968, 35, 1), (70006, 1, 1), (70019, 48, 1), (70081, 4, 1), (70106, 2, 2),
   (70144, 18, 1), (70163, 25, 1), (70207, 2, 1), (70272, 7, 1), (70280, 2, 2), (70283, 3, 1),
   (70287, 15, 1), (70303, 10, 1), (70320, 47, 1), (70405, 8, 1), (70415, 2, 1), (70419, 22, 1),
   (70442, 7, 1), (70450, 2, 1), (70453, 5, 1), (70461, 1, 1), (70480, 1, 1), (70493, 5, 1),
   (70528, 10, 1), (70539, 1, 1), (70542, 2, 2), (70545, 37, 1), (70583, 1, 1), (70609, 2, 2),
   (70656, 53, 1), (70727, 4, 1), (70751, 3, 1), (70784, 48, 1), (70852, 2, 1), (70855, 1, 1),
   (71040, 47, 1), (71128, 4, 1), (71168, 48, 1), (71236, 1, 1), (71296, 43, 1), (71352, 1, 1),
   (71424, 27, 1), (71488, 7, 1), (71680, 44, 1), (71935, 8, 1), (71945, 1, 1), (71948, 8, 1),
   (71957, 2, 1), (71960, 24, 1), (71999, 2, 2), (72096, 8, 1), (72106, 39, 1), (72161, 2, 2),
   (72192, 1, 1), (72203, 40, 1), (72250, 1, 1), (72272, 1, 1), (72284, 46, 1), (72349, 1, 1),
   (72368, 73, 1), (72640, 33, 1), (72704, 9, 1), (72714, 37, 1), (72768, 1, 1), (72818, 30, 1),
   (72960, 7, 1), (72968, 2, 1), (72971, 38, 1), (73030, 1, 1), (73056, 6, 1), (73063, 2, 1),
   (73066, 32, 1), (73112, 1, 1), (73136, 41, 1), (73178, 2, 1), (73440, 19, 1), (73474, 2, 2),
   (73477, 12, 1), (73490, 34, 1), (73648, 1, 1), (73728, 922, 1), (74880, 196, 1), (77712, 97, 1),
   (77824, 1072, 1), (78913, 6, 1), (78944, 3995, 1), (82944, 583, 1), (90368, 30, 1),
   (92160, 569, 1), (92736, 31, 1), (92784, 79, 1), (92880, 30, 1), (92928, 48, 1), (93027, 21, 1),
   (93053, 19, 1), (93507, 40, 1), (93952, 75, 1), (94032, 1, 1), (94208, 7382, 1),
   (101631, 32, 1), (101760, 115, 1), (110592, 291, 1), (110898, 1, 1), (110928, 3, 1),
   (110933, 1, 1), (110948, 4, 1), (110960, 396, 1), (113664, 107, 1), (113776, 13, 1),
   (113792, 9, 1), (113808, 10, 1), (122634, 1, 1), (123136, 45, 1), (123214, 1, 1),
   (123536, 30, 1), (123584, 44, 1), (124112, 27, 1), (124368, 30, 1), (124400, 1, 1),
   (124608, 31, 1), (124640, 3, 1), (124644, 2, 1), (124647, 7, 1), (124656, 5, 1), (124670, 1, 1),
   (124896, 7, 1), (124904, 4, 1), (124909, 2, 1), (124912, 15, 1), (124928, 197, 1),
   (126464, 4, 1), (126469, 27, 1), (126497, 2, 1), (126500, 1, 1), (126503, 2, 2), (126506, 9, 1),
   (126516, 4, 1), (126521, 2, 2), (126530, 1, 1), (126535, 4, 2), (126542, 2, 1), (126545, 2, 1),
   (126548, 1, 1), (126551, 6, 2), (126562, 2, 2), (126567, 4, 1), (126572, 7, 1), (126580, 4, 1),
   (126585, 4, 1), (126590, 2, 2), (126593, 9, 1), (126603, 17, 1), (126625, 3, 1), (126629, 5, 1),
   (126635, 17, 1), (131072, 42720, 1), (173824, 4382, 1), (178208, 5774, 1), (183984, 7473, 1),
   (191472, 622, 1), (194560, 542, 1), (196608, 4939, 1), (201552, 8490, 1)]

/-- The general category `Mn`: nonspacing marks. -/
def runsMn : List Run :=
  [(768, 112, 1), (1155, 5, 1), (1425, 45, 1), (1471, 2, 2), (1474, 2, 2), (1477, 2, 2),
   (1552, 11, 1), (1611, 21, 1), (1648, 1, 1), (1750, 7, 1), (1759, 6, 1), (1767, 2, 1),
   (1770, 4, 1), (1809, 1, 1), (1840, 27, 1), (1958, 11, 1), (2027, 9, 1), (2045, 1, 1),
   (2070, 4, 1), (2075, 9, 1), (2085, 3, 1), (2089, 5, 1), (2137, 3, 1), (2199, 9, 1),
   (2250, 24, 1), (2275, 32, 1), (2362, 2, 2), (2369, 8, 1), (2381, 1, 1), (2385, 7, 1),
   (2402, 2, 1), (2433, 1, 1), (2492, 1, 1), (2497, 4, 1), (2509, 1, 1), (2530, 2, 1),
   (2558, 1, 1), (2561, 2, 1), (2620, 1, 1), (2625, 2, 1), (2631, 2, 1), (2635, 3, 1),
   (2641, 1, 1), (2672, 2, 1), (2677, 1, 1), (2689, 2, 1), (2748, 1, 1), (2753, 5, 1),
   (2759, 2, 1), (2765, 1, 1), (2786, 2, 1), (2810, 6, 1), (2817, 1, 1), (2876, 1, 1),
   (2879, 2, 2), (2882, 3, 1), (2893, 1, 1), (2901, 2, 1), (2914, 2, 1), (2946, 1, 1),
   (3008, 1, 1), (3021, 1, 1), (3072, 1, 1), (3076, 1, 1), (3132, 2, 2), (3135, 2, 1),
   (3142, 3, 1), (3146, 4, 1), (3157, 2, 1), (3170, 2, 1), (3201, 1, 1), (3260, 1, 1),
   (3263, 1, 1), (3270, 1, 1), (3276, 2, 1), (3298, 2, 1), (3328, 2, 1), (3387, 2, 1),
   (3393, 4, 1), (3405, 1, 1), (3426, 2, 1), (3457, 1, 1), (3530, 1, 1), (3538, 3, 1),
   (3542, 1, 1), (3633, 1, 1), (3636, 7, 1), (3655, 8, 1), (3761, 1, 1), (3764, 9, 1),
   (3784, 7, 1), (3864, 2, 1), (3893, 3, 2), (3953, 14, 1), (3968, 5, 1), (3974, 2, 1),
   (3981, 11, 1), (3993, 36, 1), (4038, 1, 1), (4141, 4, 1), (4146, 6, 1), (4153, 2, 1),
   (4157, 2, 1), (4184, 2, 1), (4190, 3, 1), (4209, 4, 1), (4226, 1, 1), (4229, 2, 1),
   (4237, 1, 1), (4253, 1, 1), (4957, 3, 1), (5906, 3, 1), (5938, 2, 1), (5970, 2, 1),
   (6002, 2, 1), (6068, 2, 1), (6071, 7, 1), (6086, 1, 1), (6089, 11, 1), (6109, 1, 1),
   (6155, 3, 1), (6159, 1, 1), (6277, 2, 1), (6313, 1, 1), (6432, 3, 1), (6439, 2, 1),
   (6450, 1, 1), (6457, 3, 1), (6679, 2, 1), (6683, 1, 1), (6742, 2, 2), (6745, 6, 1),
   (6752, 2, 2), (6757, 8, 1), (6771, 10, 1), (6783, 1, 1), (6832, 14, 1), (6847, 31, 1),
   (6880, 12, 1), (6912, 4, 1), (6964, 2, 2), (6967, 4, 1), (6972, 1, 1), (6978, 1, 1),
   (7019, 9, 1), (7040, 2, 1), (7074, 4, 1), (7080, 2, 1), (7083, 3, 1), (7142, 2, 2),
   (7145, 1, 1), (7149, 2, 2), (7152, 2, 1), (7212, 8, 1), (7222, 2, 1), (7376, 3, 1),
   (7380, 13, 1), (7394, 7, 1), (7405, 1, 1), (7412, 1, 1), (7416, 2, 1), (7616, 64, 1),
   (8400, 13, 1), (8417, 1, 1), (8421, 12, 1), (11503, 3, 1), (11647, 1, 1), (11744, 32, 1),
   (12330, 4, 1), (12441, 2, 1), (42607, 1, 1), (42612, 10, 1), (42654, 2, 1), (42736, 2, 1),
   (43010, 1, 1), (43014, 1, 1), (43019, 1, 1), (43045, 2, 1), (43052, 1, 1), (43204, 2, 1),
   (43232, 18, 1), (43263, 1, 1), (43302, 8, 1), (43335, 11, 1), (43392, 3, 1), (43443, 1, 1),
   (43446, 4, 1), (43452, 2, 1), (43493, 1, 1), (43561, 6, 1), (43569, 2, 1), (43573, 2, 1),
   (43587, 1, 1), (43596, 1, 1), (43644, 1, 1), (43696, 2, 2), (43699, 2, 1), (43703, 2, 1),
   (43710, 2, 1), (43713, 1, 1), (43756, 2, 1), (43766, 1, 1), (44005, 1, 1), (44008, 1, 1),
   (44013, 1, 1), (64286, 1, 1), (65024, 16, 1), (65056, 16, 1), (66045, 1, 1), (66272, 1, 1),
   (66422, 5, 1), (68097, 3, 1), (68101, 2, 1), (68108, 4, 1), (68152, 3, 1), (68159, 1, 1),
   (68325, 2, 1), (68900, 4, 1), (68969, 5, 1), (69291, 2, 1), (69370, 6, 1), (69446, 11, 1),
   (69506, 4, 1), (69633, 1, 1), (69688, 15, 1), (69744, 1, 1), (69747, 2, 1), (69759, 3, 1),
   (69811, 4, 1), (69817, 2, 1), (69826, 1, 1), (69888, 3, 1), (69927, 5, 1), (69933, 8, 1),
   (70003, 1, 1), (70016, 2, 1), (70070, 9, 1), (70089, 4, 1), (70095, 1, 1), (70191, 3, 1),
   (70196, 2, 2), (70199, 1, 1), (70206, 1, 1), (70209, 1, 1), (70367, 1, 1), (70371, 8, 1),
   (70400, 2, 1), (70459, 2, 1), (70464, 1, 1), (70502, 7, 1), (70512, 5, 1), (70587, 6, 1),
   (70606, 3, 2), (70625, 2, 1), (70712, 8, 1), (70722, 3, 1), (70726, 1, 1), (70750, 1, 1),
   (70835, 6, 1), (70842, 1, 1), (70847, 2, 1), (70850, 2, 1), (71090, 4, 1), (71100, 2, 1),
   (71103, 2, 1), (71132, 2, 1), (71219, 8, 1), (71229, 2, 2), (71232, 1, 1), (71339, 2, 2),
   (71344, 6, 1), (71351, 1, 1), (71453, 2, 2), (71458, 4, 1), (71463, 5, 1), (71727, 9, 1),
   (71737, 2, 1), (71995, 2, 1), (71998, 1, 1), (72003, 1, 1), (72148, 4, 1), (72154, 2, 1),
   (72160, 1, 1), (72193, 10, 1), (72243, 6, 1), (72251, 4, 1), (72263, 1, 1), (72273, 6, 1),
   (72281, 3, 1), (72330, 13, 1), (72344, 2, 1), (72544, 2, 2), (72547, 2, 1), (72550, 1, 1),
   (72752, 7, 1), (72760, 6, 1), (72767, 1, 1), (72850, 22, 1), (72874, 7, 1), (72882, 2, 1),
   (72885, 2, 1), (73009, 6, 1), (73018, 2, 2), (73021, 2, 2), (73024, 6, 1), (73031, 1, 1),
   (73104, 2, 1), (73109, 2, 2), (73459, 2, 1), (73472, 2, 1), (73526, 5, 1), (73536, 2, 2),
   (73562, 1, 1), (78912, 1, 1), (78919, 15, 1), (90398, 12, 1), (90413, 3, 1), (92912, 5, 1),
   (92976, 7, 1), (94031, 1, 1), (94095, 4, 1), (94180, 1, 1), (113821, 2, 1), (118528, 46, 1),
   (118576, 23, 1), (119143, 3, 1), (119163, 8, 1), (119173, 7, 1), (119210, 4, 1), (119362, 3, 1),
   (121344, 55, 1), (121403, 50, 1), (121461, 1, 1), (121476, 1, 1), (121499, 5, 1),
   (121505, 15, 1), (122880, 7, 1), (122888, 17, 1), (122907, 7, 1), (122915, 2, 1),
   (122918, 5, 1), (123023, 1, 1), (123184, 7, 1), (123566, 1, 1), (123628, 4, 1), (124140, 4, 1),
   (124398, 2, 1), (124643, 1, 1), (124646, 1, 1), (124654, 2, 1), (124661, 1, 1), (125136, 7, 1),
   (125252, 7, 1), (917760, 240, 1)]

/-- The general category `Mc`: spacing marks. -/
def runsMc : List Run :=
  [(2307, 1, 1), (2363, 1, 1), (2366, 3, 1), (2377, 4, 1), (2382, 2, 1), (2434, 2, 1),
   (2494, 3, 1), (2503, 2, 1), (2507, 2, 1), (2519, 1, 1), (2563, 1, 1), (2622, 3, 1),
   (2691, 1, 1), (2750, 3, 1), (2761, 2, 2), (2764, 1, 1), (2818, 2, 1), (2878, 2, 2),
   (2887, 2, 1), (2891, 2, 1), (2903, 1, 1), (3006, 2, 1), (3009, 2, 1), (3014, 3, 1),
   (3018, 3, 1), (3031, 1, 1), (3073, 3, 1), (3137, 4, 1), (3202, 2, 1), (3262, 2, 2),
   (3265, 4, 1), (3271, 2, 1), (3274, 2, 1), (3285, 2, 1), (3315, 1, 1), (3330, 2, 1),
   (3390, 3, 1), (3398, 3, 1), (3402, 3, 1), (3415, 1, 1), (3458, 2, 1), (3535, 3, 1),
   (3544, 8, 1), (3570, 2, 1), (3902, 2, 1), (3967, 1, 1), (4139, 2, 1), (4145, 1, 1),
   (4152, 1, 1), (4155, 2, 1), (4182, 2, 1), (4194, 3, 1), (4199, 7, 1), (4227, 2, 1),
   (4231, 6, 1), (4239, 1, 1), (4250, 3, 1), (5909, 1, 1), (5940, 1, 1), (6070, 1, 1),
   (6078, 8, 1), (6087, 2, 1), (6435, 4, 1), (6441, 3, 1), (6448, 2, 1), (6451, 6, 1),
   (6681, 2, 1), (6741, 2, 2), (6753, 2, 2), (6756, 1, 1), (6765, 6, 1), (6916, 1, 1),
   (6965, 1, 1), (6971, 2, 2), (6974, 4, 1), (6979, 2, 1), (7042, 1, 1), (7073, 1, 1),
   (7078, 2, 1), (7082, 1, 1), (7143, 1, 1), (7146, 3, 1), (7150, 1, 1), (7154, 2, 1),
   (7204, 8, 1), (7220, 2, 1), (7393, 1, 1), (7415, 1, 1), (12334, 2, 1), (43043, 2, 1),
   (43047, 1, 1), (43136, 2, 1), (43188, 16, 1), (43346, 2, 1), (43395, 1, 1), (43444, 2, 1),
   (43450, 2, 1), (43454, 3, 1), (43567, 2, 1), (43571, 2, 1), (43597, 1, 1), (43643, 2, 2),
   (43755, 1, 1), (43758, 2, 1), (43765, 1, 1), (44003, 2, 1), (44006, 2, 1), (44009, 2, 1),
   (44012, 1, 1), (69632, 2, 2), (69762, 1, 1), (69808, 3, 1), (69815, 2, 1), (69932, 1, 1),
   (69957, 2, 1), (70018, 1, 1), (70067, 3, 1), (70079, 2, 1), (70094, 1, 1), (70188, 3, 1),
   (70194, 2, 1), (70197, 1, 1), (70368, 3, 1), (70402, 2, 1), (70462, 2, 1), (70465, 4, 1),
   (70471, 2, 1), (70475, 3, 1), (70487, 1, 1), (70498, 2, 1), (70584, 3, 1), (70594, 1, 1),
   (70597, 2, 2), (70600, 3, 1), (70604, 2, 1), (70607, 1, 1), (70709, 3, 1), (70720, 2, 1),
   (70725, 1, 1), (70832, 3, 1), (70841, 2, 2), (70844, 3, 1), (70849, 1, 1), (71087, 3, 1),
   (71096, 4, 1), (71102, 1, 1), (71216, 3, 1), (71227, 2, 1), (71230, 1, 1), (71340, 2, 2),
   (71343, 1, 1), (71350, 1, 1), (71454, 2, 2), (71457, 1, 1), (71462, 1, 1), (71724, 3, 1),
   (71736, 1, 1), (71984, 6, 1), (71991, 2, 1), (71997, 1, 1), (72000, 2, 2), (72145, 3, 1),
   (72156, 4, 1), (72164, 1, 1), (72249, 1, 1), (72279, 2, 1), (72343, 1, 1), (72545, 1, 1),
   (72549, 2, 2), (72751, 1, 1), (72766, 1, 1), (72873, 1, 1), (72881, 1, 1), (72884, 1, 1),
   (73098, 5, 1), (73107, 2, 1), (73110, 1, 1), (73461, 2, 1), (73475, 1, 1), (73524, 2, 1),
   (73534, 2, 1), (73537, 1, 1), (90410, 3, 1), (94033, 55, 1), (94192, 2, 1), (119141, 2, 1),
   (119149, 6, 1)]

/-- The general category `Me`: enclosing marks. -/
def runsMe : List Run :=
  [(1160, 2, 1), (6846, 1, 1), (8413, 4, 1), (8418, 3, 1), (42608, 3, 1)]

/-- The general category `Nd`: decimal numbers. -/
def runsNd : List Run :=
  [(48, 10, 1), (1632, 10, 1), (1776, 10, 1), (1984, 10, 1), (2406, 10, 1), (2534, 10, 1),
   (2662, 10, 1), (2790, 10, 1), (2918, 10, 1), (3046, 10, 1), (3174, 10, 1), (3302, 10, 1),
   (3430, 10, 1), (3558, 10, 1), (3664, 10, 1), (3792, 10, 1), (3872, 10, 1), (4160, 10, 1),
   (4240, 10, 1), (6112, 10, 1), (6160, 10, 1), (6470, 10, 1), (6608, 10, 1), (6784, 10, 1),
   (6800, 10, 1), (6992, 10, 1), (7088, 10, 1), (7232, 10, 1), (7248, 10, 1), (42528, 10, 1),
   (43216, 10, 1), (43264, 10, 1), (43472, 10, 1), (43504, 10, 1), (43600, 10, 1), (44016, 10, 1),
   (65296, 10, 1), (66720, 10, 1), (68912, 10, 1), (68928, 10, 1), (69734, 10, 1), (69872, 10, 1),
   (69942, 10, 1), (70096, 10, 1), (70384, 10, 1), (70736, 10, 1), (70864, 10, 1), (71248, 10, 1),
   (71360, 10, 1), (71376, 20, 1), (71472, 10, 1), (71904, 10, 1), (72016, 10, 1), (72688, 10, 1),
   (72784, 10, 1), (73040, 10, 1), (73120, 10, 1), (73184, 10, 1), (73552, 10, 1), (90416, 10, 1),
   (92768, 10, 1), (92864, 10, 1), (93008, 10, 1), (93552, 10, 1), (118000, 10, 1),
   (120782, 50, 1), (123200, 10, 1), (123632, 10, 1), (124144, 10, 1), (124401, 10, 1),
   (125264, 10, 1), (130032, 10, 1)]

/-- The general category `Nl`: letter numbers. -/
def runsNl : List Run :=
  [(5870, 3, 1), (8544, 35, 1), (8581, 4, 1), (12295, 1, 1), (12321, 9, 1), (12344, 3, 1),
   (42726, 10, 1), (65856, 53, 1), (66369, 1, 1), (66378, 1, 1), (66513, 5, 1), (74752, 111, 1),
   (94196, 3, 1)]

/-- The general category `No`: other numbers. -/
def runsNo : List Run :=
  [(178, 2, 1), (185, 1, 1), (188, 3, 1), (2548, 6, 1), (2930, 6, 1), (3056, 3, 1), (3192, 7, 1),
   (3416, 7, 1), (3440, 9, 1), (3882, 10, 1), (4969, 20, 1), (6128, 10, 1), (6618, 1, 1),
   (8304, 1, 1), (8308, 6, 1), (8320, 10, 1), (8528, 16, 1), (8585, 1, 1), (9312, 60, 1),
   (9450, 22, 1), (10102, 30, 1), (11517, 1, 1), (12690, 4, 1), (12832, 10, 1), (12872, 8, 1),
   (12881, 15, 1), (12928, 10, 1), (12977, 15, 1), (43056, 6, 1), (65799, 45, 1), (65909, 4, 1),
   (65930, 2, 1), (66273, 27, 1), (66336, 4, 1), (67672, 8, 1), (67705, 7, 1), (67751, 9, 1),
   (67835, 5, 1), (67862, 6, 1), (68028, 2, 1), (68032, 16, 1), (68050, 46, 1), (68160, 9, 1),
   (68221, 2, 1), (68253, 3, 1), (68331, 5, 1), (68440, 8, 1), (68472, 8, 1), (68521, 7, 1),
   (68858, 6, 1), (69216, 31, 1), (69405, 10, 1), (69457, 4, 1), (69573, 7, 1), (69714, 20, 1),
   (70113, 20, 1), (71482, 2, 1), (71914, 9, 1), (72794, 19, 1), (73664, 21, 1), (93019, 7, 1),
   (93824, 23, 1), (119488, 20, 1), (119520, 20, 1), (119648, 25, 1), (125127, 9, 1),
   (126065, 59, 1), (126125, 3, 1), (126129, 4, 1), (126209, 45, 1), (126255, 15, 1),
   (127232, 13, 1)]

/-- The general category `Pc`: connector punctuation. -/
def runsPc : List Run :=
  [(95, 1, 1), (8255, 2, 1), (8276, 1, 1), (65075, 2, 1), (65101, 3, 1), (65343, 1, 1)]

/-- The general category `Pd`: dash punctuation. -/
def runsPd : List Run :=
  [(45, 1, 1), (1418, 1, 1), (1470, 1, 1), (5120, 1, 1), (6150, 1, 1), (8208, 6, 1), (11799, 1, 1),
   (11802, 1, 1), (11834, 2, 1), (11840, 1, 1), (11869, 1, 1), (12316, 1, 1), (12336, 1, 1),
   (12448, 1, 1), (65073, 2, 1), (65112, 1, 1), (65123, 1, 1), (65293, 1, 1), (68974, 1, 1),
   (69293, 1, 1)]

/-- The general category `Ps`: opening punctuation. -/
def runsPs : List Run :=
  [(40, 1, 1), (91, 1, 1), (123, 1, 1), (3898, 2, 2), (5787, 1, 1), (8218, 1, 1), (8222, 1, 1),
   (8261, 1, 1), (8317, 1, 1), (8333, 1, 1), (8968, 2, 2), (9001, 1, 1), (10088, 7, 2),
   (10181, 1, 1), (10214, 5, 2), (10627, 11, 2), (10712, 2, 2), (10748, 1, 1), (11810, 4, 2),
   (11842, 1, 1), (11861, 4, 2), (12296, 5, 2), (12308, 4, 2), (12317, 1, 1), (64831, 1, 1),
   (65047, 1, 1), (65077, 8, 2), (65095, 1, 1), (65113, 3, 2), (65288, 1, 1), (65339, 1, 1),
   (65371, 1, 1), (65375, 1, 1), (65378, 1, 1)]

/-- The general category `Pe`: closing punctuation. -/
def runsPe : List Run :=
  [(41, 1, 1), (93, 1, 1), (125, 1, 1), (3899, 2, 2), (5788, 1, 1), (8262, 1, 1), (8318, 1, 1),
   (8334, 1, 1), (8969, 2, 2), (9002, 1, 1), (10089, 7, 2), (10182, 1, 1), (10215, 5, 2),
   (10628, 11, 2), (10713, 2, 2), (10749, 1, 1), (11811, 4, 2), (11862, 4, 2), (12297, 5, 2),
   (12309, 4, 2), (12318, 2, 1), (64830, 1, 1), (65048, 1, 1), (65078, 8, 2), (65096, 1, 1),
   (65114, 3, 2), (65289, 1, 1), (65341, 1, 1), (65373, 1, 1), (65376, 1, 1), (65379, 1, 1)]

/-- The general category `Pi`: initial punctuation. -/
def runsPi : List Run :=
  [(171, 1, 1), (8216, 1, 1), (8219, 2, 1), (8223, 1, 1), (8249, 1, 1), (11778, 2, 2),
   (11785, 1, 1), (11788, 1, 1), (11804, 1, 1), (11808, 1, 1)]

/-- The general category `Pf`: final punctuation. -/
def runsPf : List Run :=
  [(187, 1, 1), (8217, 1, 1), (8221, 1, 1), (8250, 1, 1), (11779, 2, 2), (11786, 1, 1),
   (11789, 1, 1), (11805, 1, 1), (11809, 1, 1)]

/-- The general category `Po`: other punctuation. -/
def runsPo : List Run :=
  [(33, 3, 1), (37, 3, 1), (42, 3, 2), (47, 1, 1), (58, 2, 1), (63, 2, 1), (92, 1, 1), (161, 1, 1),
   (167, 1, 1), (182, 2, 1), (191, 1, 1), (894, 1, 1), (903, 1, 1), (1370, 6, 1), (1417, 1, 1),
   (1472, 1, 1), (1475, 1, 1), (1478, 1, 1), (1523, 2, 1), (1545, 2, 1), (1548, 2, 1),
   (1563, 2, 2), (1566, 2, 1), (1642, 4, 1), (1748, 1, 1), (1792, 14, 1), (2039, 3, 1),
   (2096, 15, 1), (2142, 1, 1), (2404, 2, 1), (2416, 1, 1), (2557, 1, 1), (2678, 1, 1),
   (2800, 1, 1), (3191, 1, 1), (3204, 1, 1), (3572, 1, 1), (3663, 1, 1), (3674, 2, 1),
   (3844, 15, 1), (3860, 1, 1), (3973, 1, 1), (4048, 5, 1), (4057, 2, 1), (4170, 6, 1),
   (4347, 1, 1), (4960, 9, 1), (5742, 1, 1), (5867, 3, 1), (5941, 2, 1), (6100, 3, 1),
   (6104, 3, 1), (6144, 6, 1), (6151, 4, 1), (6468, 2, 1), (6686, 2, 1), (6816, 7, 1),
   (6824, 6, 1), (6990, 2, 1), (7002, 7, 1), (7037, 3, 1), (7164, 4, 1), (7227, 5, 1),
   (7294, 2, 1), (7360, 8, 1), (7379, 1, 1), (8214, 2, 1), (8224, 8, 1), (8240, 9, 1),
   (8251, 4, 1), (8257, 3, 1), (8263, 11, 1), (8275, 2, 2), (8278, 9, 1), (11513, 4, 1),
   (11518, 2, 1), (11632, 1, 1), (11776, 2, 1), (11782, 3, 1), (11787, 1, 1), (11790, 9, 1),
   (11800, 2, 1), (11803, 1, 1), (11806, 2, 1), (11818, 5, 1), (11824, 10, 1), (11836, 4, 1),
   (11841, 2, 2), (11844, 12, 1), (11858, 3, 1), (12289, 3, 1), (12349, 1, 1), (12539, 1, 1),
   (42238, 2, 1), (42509, 3, 1), (42611, 1, 1), (42622, 1, 1), (42738, 6, 1), (43124, 4, 1),
   (43214, 2, 1), (43256, 3, 1), (43260, 1, 1), (43310, 2, 1), (43359, 1, 1), (43457, 13, 1),
   (43486, 2, 1), (43612, 4, 1), (43742, 2, 1), (43760, 2, 1), (44011, 1, 1), (65040, 7, 1),
   (65049, 1, 1), (65072, 1, 1), (65093, 2, 1), (65097, 4, 1), (65104, 3, 1), (65108, 4, 1),
   (65119, 3, 1), (65128, 2, 2), (65131, 1, 1), (65281, 3, 1), (65285, 3, 1), (65290, 3, 2),
   (65295, 1, 1), (65306, 2, 1), (65311, 2, 1), (65340, 1, 1), (65377, 1, 1), (65380, 2, 1),
   (65792, 3, 1), (66463, 1, 1), (66512, 1, 1), (66927, 1, 1), (67671, 1, 1), (67871, 1, 1),
   (67903, 1, 1), (68176, 9, 1), (68223, 1, 1), (68336, 7, 1), (68409, 7, 1), (68505, 4, 1),
   (69328, 1, 1), (69461, 5, 1), (69510, 4, 1), (69703, 7, 1), (69819, 2, 1), (69822, 4, 1),
   (69952, 4, 1), (70004, 2, 1), (70085, 4, 1), (70093, 1, 1), (70107, 2, 2), (70110, 2, 1),
   (70200, 6, 1), (70313, 1, 1), (70612, 2, 1), (70615, 2, 1), (70731, 5, 1), (70746, 2, 1),
   (70749, 1, 1), (70854, 1, 1), (71105, 23, 1), (71233, 3, 1), (71264, 13, 1), (71353, 1, 1),
   (71484, 3, 1), (71739, 1, 1), (72004, 3, 1), (72162, 1, 1), (72255, 8, 1), (72346, 3, 1),
   (72350, 5, 1), (72448, 10, 1), (72673, 1, 1), (72769, 5, 1), (72816, 2, 1), (73463, 2, 1),
   (73539, 13, 1), (73727, 1, 1), (74864, 5, 1), (77809, 2, 1), (92782, 2, 1), (92917, 1, 1),
   (92983, 5, 1), (92996, 1, 1), (93549, 3, 1), (93847, 4, 1), (94178, 1, 1), (113823, 1, 1),
   (121479, 5, 1), (124415, 1, 1), (125278, 2, 1)]

/-- The general category `Sm`: math symbols. -/
def runsSm : List Run :=
  [(43, 1, 1), (60, 3, 1), (124, 2, 2), (172, 1, 1), (177, 1, 1), (215, 1, 1), (247, 1, 1),
   (1014, 1, 1), (1542, 3, 1), (8260, 1, 1), (8274, 1, 1), (8314, 3, 1), (8330, 3, 1),
   (8472, 1, 1), (8512, 5, 1), (8523, 1, 1), (8592, 5, 1), (8602, 2, 1), (8608, 1, 1),
   (8611, 1, 1), (8614, 1, 1), (8622, 1, 1), (8654, 2, 1), (8658, 2, 2), (8692, 268, 1),
   (8992, 2, 1), (9084, 1, 1), (9115, 25, 1), (9180, 6, 1), (9655, 1, 1), (9665, 1, 1),
   (9720, 8, 1), (9839, 1, 1), (10176, 5, 1), (10183, 31, 1), (10224, 16, 1), (10496, 131, 1),
   (10649, 63, 1), (10716, 32, 1), (10750, 258, 1), (11056, 21, 1), (11079, 6, 1), (64297, 1, 1),
   (65122, 2, 2), (65125, 2, 1), (65291, 1, 1), (65308, 3, 1), (65372, 2, 2), (65506, 1, 1),
   (65513, 4, 1), (69006, 2, 1), (118512, 1, 1), (120513, 1, 1), (120539, 1, 1), (120571, 1, 1),
   (120597, 1, 1), (120629, 1, 1), (120655, 1, 1), (120687, 1, 1), (120713, 1, 1), (120745, 1, 1),
   (120771, 1, 1), (126704, 2, 1), (129232, 9, 1)]

/-- The general category `Sc`: currency symbols. -/
def runsSc : List Run :=
  [(36, 1, 1), (162, 4, 1), (1423, 1, 1), (1547, 1, 1), (2046, 2, 1), (2546, 2, 1), (2555, 1, 1),
   (2801, 1, 1), (3065, 1, 1), (3647, 1, 1), (6107, 1, 1), (8352, 34, 1), (43064, 1, 1),
   (65020, 1, 1), (65129, 1, 1), (65284, 1, 1), (65504, 2, 1), (65509, 2, 1), (73693, 4, 1),
   (123647, 1, 1), (126128, 1, 1)]

/-- The general category `Sk`: modifier symbols. -/
def runsSk : List Run :=
  [(94, 2, 2), (168, 1, 1), (175, 1, 1), (180, 1, 1), (184, 1, 1), (706, 4, 1), (722, 14, 1),
   (741, 7, 1), (749, 2, 2), (752, 16, 1), (885, 1, 1), (900, 2, 1), (2184, 1, 1), (8125, 2, 2),
   (8128, 2, 1), (8141, 3, 1), (8157, 3, 1), (8173, 3, 1), (8189, 2, 1), (12443, 2, 1),
   (42752, 23, 1), (42784, 2, 1), (42889, 2, 1), (43867, 1, 1), (43882, 2, 1), (64434, 17, 1),
   (65342, 2, 2), (65507, 1, 1), (127995, 5, 1)]

/-- The general category `So`: other symbols. -/
def runsSo : List Run :=
  [(166, 1, 1), (169, 1, 1), (174, 2, 2), (1154, 1, 1), (1421, 2, 1), (1550, 2, 1), (1758, 1, 1),
   (1769, 1, 1), (1789, 2, 1), (2038, 1, 1), (2554, 1, 1), (2928, 1, 1), (3059, 6, 1),
   (3066, 1, 1), (3199, 1, 1), (3407, 1, 1), (3449, 1, 1), (3841, 3, 1), (3859, 2, 2),
   (3862, 2, 1), (3866, 6, 1), (3892, 3, 2), (4030, 8, 1), (4039, 6, 1), (4046, 2, 1),
   (4053, 4, 1), (4254, 2, 1), (5008, 10, 1), (5741, 1, 1), (6464, 1, 1), (6622, 34, 1),
   (7009, 10, 1), (7028, 9, 1), (8448, 2, 1), (8451, 4, 1), (8456, 2, 1), (8468, 2, 2),
   (8471, 1, 1), (8478, 6, 1), (8485, 3, 2), (8494, 1, 1), (8506, 2, 1), (8522, 2, 2),
   (8525, 2, 2), (8586, 2, 1), (8597, 5, 1), (8604, 4, 1), (8609, 2, 1), (8612, 2, 1),
   (8615, 7, 1), (8623, 31, 1), (8656, 2, 1), (8659, 2, 2), (8662, 30, 1), (8960, 8, 1),
   (8972, 20, 1), (8994, 7, 1), (9003, 81, 1), (9085, 30, 1), (9140, 40, 1), (9186, 72, 1),
   (9280, 11, 1), (9372, 78, 1), (9472, 183, 1), (9656, 9, 1), (9666, 54, 1), (9728, 111, 1),
   (9840, 248, 1), (10132, 44, 1), (10240, 256, 1), (11008, 48, 1), (11077, 2, 1), (11085, 39, 1),
   (11126, 138, 1), (11493, 6, 1), (11856, 2, 1), (11904, 26, 1), (11931, 89, 1), (12032, 214, 1),
   (12272, 16, 1), (12292, 1, 1), (12306, 2, 1), (12320, 1, 1), (12342, 2, 1), (12350, 2, 1),
   (12688, 2, 1), (12694, 10, 1), (12736, 38, 1), (12783, 1, 1), (12800, 31, 1), (12842, 30, 1),
   (12880, 1, 1), (12896, 32, 1), (12938, 39, 1), (12992, 320, 1), (19904, 64, 1), (42128, 55, 1),
   (43048, 4, 1), (43062, 2, 1), (43065, 1, 1), (43639, 3, 1), (64451, 16, 1), (64832, 16, 1),
   (64912, 2, 1), (64968, 8, 1), (65021, 3, 1), (65508, 1, 1), (65512, 1, 1), (65517, 2, 1),
   (65532, 2, 1), (65847, 9, 1), (65913, 17, 1), (65932, 3, 1), (65936, 13, 1), (65952, 1, 1),
   (66000, 45, 1), (67703, 2, 1), (68296, 1, 1), (69329, 8, 1), (71487, 1, 1), (73685, 8, 1),
   (73697, 17, 1), (92988, 4, 1), (92997, 1, 1), (113820, 1, 1), (117760, 240, 1), (118010, 3, 1),
   (118016, 436, 1), (118458, 23, 1), (118496, 16, 1), (118608, 116, 1), (118784, 246, 1),
   (119040, 39, 1), (119081, 60, 1), (119146, 3, 1), (119171, 2, 1), (119180, 30, 1),
   (119214, 61, 1), (119296, 66, 1), (119365, 1, 1), (119552, 87, 1), (120832, 512, 1),
   (121399, 4, 1), (121453, 8, 1), (121462, 14, 1), (121477, 2, 1), (123215, 1, 1), (126124, 1, 1),
   (126254, 1, 1), (126976, 44, 1), (127024, 100, 1), (127136, 15, 1), (127153, 15, 1),
   (127169, 15, 1), (127185, 37, 1), (127245, 161, 1), (127462, 29, 1), (127504, 44, 1),
   (127552, 9, 1), (127568, 2, 1), (127584, 6, 1), (127744, 251, 1), (128000, 729, 1),
   (128732, 17, 1), (128752, 13, 1), (128768, 218, 1), (128992, 12, 1), (129008, 1, 1),
   (129024, 12, 1), (129040, 56, 1), (129104, 10, 1), (129120, 40, 1), (129168, 30, 1),
   (129200, 12, 1), (129216, 2, 1), (129280, 344, 1), (129632, 14, 1), (129648, 13, 1),
   (129664, 11, 1), (129678, 57, 1), (129736, 1, 1), (129741, 16, 1), (129759, 12, 1),
   (129775, 10, 1), (129792, 147, 1), (129940, 92, 1), (130042, 1, 1)]

/-- The general category `Zs`: space separators. -/
def runsZs : List Run :=
  [(32, 1, 1), (160, 1, 1), (5760, 1, 1), (8192, 11, 1), (8239, 1, 1), (8287, 1, 1), (12288, 1, 1)]

/-- The general category `Zl`: line separators. -/
def runsZl : List Run :=
  [(8232, 1, 1)]

/-- The general category `Zp`: paragraph separators. -/
def runsZp : List Run :=
  [(8233, 1, 1)]

/-- The general category `Cc`: control characters. -/
def runsCc : List Run :=
  [(0, 32, 1), (127, 33, 1)]

/-- The general category `Cf`: format characters. -/
def runsCf : List Run :=
  [(173, 1, 1), (1536, 6, 1), (1564, 1, 1), (1757, 1, 1), (1807, 1, 1), (2192, 2, 1), (2274, 1, 1),
   (6158, 1, 1), (8203, 5, 1), (8234, 5, 1), (8288, 5, 1), (8294, 10, 1), (65279, 1, 1),
   (65529, 3, 1), (69821, 1, 1), (69837, 1, 1), (78896, 16, 1), (113824, 4, 1), (119155, 8, 1),
   (917505, 1, 1), (917536, 96, 1)]

/-- The general category `Co`: private use characters. -/
def runsCo : List Run :=
  [(57344, 6400, 1), (983040, 65534, 1), (1048576, 65534, 1)]

/-- The property `Alphabetic`. -/
def alphabeticRuns : List Run :=
  [(65, 26, 1), (97, 26, 1), (170, 1, 1), (181, 1, 1), (186, 1, 1), (192, 23, 1), (216, 31, 1),
   (248, 458, 1), (710, 12, 1), (736, 5, 1), (748, 2, 2), (837, 1, 1), (867, 18, 1), (886, 2, 1),
   (890, 4, 1), (895, 1, 1), (902, 2, 2), (905, 2, 1), (908, 2, 2), (911, 19, 1), (931, 83, 1),
   (1015, 139, 1), (1162, 166, 1), (1329, 38, 1), (1369, 1, 1), (1376, 41, 1), (1456, 14, 1),
   (1471, 2, 2), (1474, 2, 2), (1477, 2, 2), (1488, 27, 1), (1519, 4, 1), (1552, 11, 1),
   (1568, 56, 1), (1625, 7, 1), (1646, 102, 1), (1749, 8, 1), (1761, 8, 1), (1773, 3, 1),
   (1786, 3, 1), (1791, 1, 1), (1808, 48, 1), (1869, 101, 1), (1994, 33, 1), (2036, 2, 1),
   (2042, 1, 1), (2048, 24, 1), (2074, 19, 1), (2112, 25, 1), (2144, 11, 1), (2160, 24, 1),
   (2185, 7, 1), (2199, 1, 1), (2208, 42, 1), (2260, 12, 1), (2275, 7, 1), (2288, 76, 1),
   (2365, 16, 1), (2382, 3, 1), (2389, 15, 1), (2417, 19, 1), (2437, 8, 1), (2447, 2, 1),
   (2451, 22, 1), (2474, 7, 1), (2482, 1, 1), (2486, 4, 1), (2493, 8, 1), (2503, 2, 1),
   (2507, 2, 1), (2510, 1, 1), (2519, 1, 1), (2524, 2, 1), (2527, 5, 1), (2544, 2, 1),
   (2556, 1, 1), (2561, 3, 1), (2565, 6, 1), (2575, 2, 1), (2579, 22, 1), (2602, 7, 1),
   (2610, 2, 1), (2613, 2, 1), (2616, 2, 1), (2622, 5, 1), (2631, 2, 1), (2635, 2, 1),
   (2641, 1, 1), (2649, 4, 1), (2654, 1, 1), (2672, 6, 1), (2689, 3, 1), (2693, 9, 1),
   (2703, 3, 1), (2707, 22, 1), (2730, 7, 1), (2738, 2, 1), (2741, 5, 1), (2749, 9, 1),
   (2759, 3, 1), (2763, 2, 1), (2768, 1, 1), (2784, 4, 1), (2809, 4, 1), (2817, 3, 1),
   (2821, 8, 1), (2831, 2, 1), (2835, 22, 1), (2858, 7, 1), (2866, 2, 1), (2869, 5, 1),
   (2877, 8, 1), (2887, 2, 1), (2891, 2, 1), (2902, 2, 1), (2908, 2, 1), (2911, 5, 1),
   (2929, 1, 1), (2946, 2, 1), (2949, 6, 1), (2958, 3, 1), (2962, 4, 1), (2969, 2, 1),
   (2972, 2, 2), (2975, 1, 1), (2979, 2, 1), (2984, 3, 1), (2990, 12, 1), (3006, 5, 1),
   (3014, 3, 1), (3018, 3, 1), (3024, 1, 1), (3031, 1, 1), (3072, 13, 1), (3086, 3, 1),
   (3090, 23, 1), (3114, 16, 1), (3133, 8, 1), (3142, 3, 1), (3146, 3, 1), (3157, 2, 1),
   (3160, 3, 1), (3164, 2, 1), (3168, 4, 1), (3200, 4, 1), (3205, 8, 1), (3214, 3, 1),
   (3218, 23, 1), (3242, 10, 1), (3253, 5, 1), (3261, 8, 1), (3270, 3, 1), (3274, 3, 1),
   (3285, 2, 1), (3292, 3, 1), (3296, 4, 1), (3313, 3, 1), (3328, 13, 1), (3342, 3, 1),
   (3346, 41, 1), (3389, 8, 1), (3398, 3, 1), (3402, 3, 1), (3406, 1, 1), (3412, 4, 1),
   (3423, 5, 1), (3450, 6, 1), (3457, 3, 1), (3461, 18, 1), (3482, 24, 1), (3507, 9, 1),
   (3517, 1, 1), (3520, 7, 1), (3535, 6, 1), (3542, 2, 2), (3545, 7, 1), (3570, 2, 1),
   (3585, 58, 1), (3648, 7, 1), (3661, 1, 1), (3713, 2, 1), (3716, 2, 2), (3719, 4, 1),
   (3724, 24, 1), (3749, 2, 2), (3752, 18, 1), (3771, 3, 1), (3776, 5, 1), (3782, 1, 1),
   (3789, 1, 1), (3804, 4, 1), (3840, 1, 1), (3904, 8, 1), (3913, 36, 1), (3953, 19, 1),
   (3976, 16, 1), (3993, 36, 1), (4096, 55, 1), (4152, 1, 1), (4155, 5, 1), (4176, 64, 1),
   (4250, 4, 1), (4256, 38, 1), (4295, 1, 1), (4301, 1, 1), (4304, 43, 1), (4348, 333, 1),
   (4682, 4, 1), (4688, 7, 1), (4696, 2, 2), (4699, 3, 1), (4704, 41, 1), (4746, 4, 1),
   (4752, 33, 1), (4786, 4, 1), (4792, 7, 1), (4800, 2, 2), (4803, 3, 1), (4808, 15, 1),
   (4824, 57, 1), (4882, 4, 1), (4888, 67, 1), (4992, 16, 1), (5024, 86, 1), (5112, 6, 1),
   (5121, 620, 1), (5743, 17, 1), (5761, 26, 1), (5792, 75, 1), (5870, 11, 1), (5888, 20, 1),
   (5919, 21, 1), (5952, 20, 1), (5984, 13, 1), (5998, 3, 1), (6002, 2, 1), (6016, 52, 1),
   (6070, 19, 1), (6103, 1, 1), (6108, 1, 1), (6176, 89, 1), (6272, 43, 1), (6320, 70, 1),
   (6400, 31, 1), (6432, 12, 1), (6448, 9, 1), (6480, 30, 1), (6512, 5, 1), (6528, 44, 1),
   (6576, 26, 1), (6656, 28, 1), (6688, 63, 1), (6753, 20, 1), (6823, 1, 1), (6847, 2, 1),
   (6860, 3, 1), (6912, 52, 1), (6965, 15, 1), (6981, 8, 1), (7040, 42, 1), (7084, 4, 1),
   (7098, 44, 1), (7143, 11, 1), (7168, 55, 1), (7245, 3, 1), (7258, 36, 1), (7296, 11, 1),
   (7312, 43, 1), (7357, 3, 1), (7401, 4, 1), (7406, 6, 1), (7413, 2, 1), (7418, 1, 1),
   (7424, 192, 1), (7635, 34, 1), (7680, 278, 1), (7960, 6, 1), (7968, 38, 1), (8008, 6, 1),
   (8016, 8, 1), (8025, 4, 2), (8032, 30, 1), (8064, 53, 1), (8118, 7, 1), (8126, 1, 1),
   (8130, 3, 1), (8134, 7, 1), (8144, 4, 1), (8150, 6, 1), (8160, 13, 1), (8178, 3, 1),
   (8182, 7, 1), (8305, 1, 1), (8319, 1, 1), (8336, 13, 1), (8450, 1, 1), (8455, 1, 1),
   (8458, 10, 1), (8469, 1, 1), (8473, 5, 1), (8484, 4, 2), (8491, 3, 1), (8495, 11, 1),
   (8508, 4, 1), (8517, 5, 1), (8526, 1, 1), (8544, 41, 1), (9398, 52, 1), (11264, 229, 1),
   (11499, 4, 1), (11506, 2, 1), (11520, 38, 1), (11559, 1, 1), (11565, 1, 1), (11568, 56, 1),
   (11631, 1, 1), (11648, 23, 1), (11680, 7, 1), (11688, 7, 1), (11696, 7, 1), (11704, 7, 1),
   (11712, 7, 1), (11720, 7, 1), (11728, 7, 1), (11736, 7, 1), (11744, 32, 1), (11823, 1, 1),
   (12293, 3, 1), (12321, 9, 1), (12337, 5, 1), (12344, 5, 1), (12353, 86, 1), (12445, 3, 1),
   (12449, 90, 1), (12540, 4, 1), (12549, 43, 1), (12593, 94, 1), (12704, 32, 1), (12784, 16, 1),
   (13312, 6592, 1), (19968, 22157, 1), (42192, 46, 1), (42240, 269, 1), (42512, 16, 1),
   (42538, 2, 1), (42560, 47, 1), (42612, 8, 1), (42623, 113, 1), (42775, 9, 1), (42786, 103, 1),
   (42891, 82, 1), (42993, 21, 1), (43015, 33, 1), (43072, 52, 1), (43136, 68, 1), (43205, 1, 1),
   (43250, 6, 1), (43259, 2, 2), (43262, 2, 1), (43274, 33, 1), (43312, 35, 1), (43360, 29, 1),
   (43392, 51, 1), (43444, 12, 1), (43471, 1, 1), (43488, 16, 1), (43514, 5, 1), (43520, 55, 1),
   (43584, 14, 1), (43616, 23, 1), (43642, 69, 1), (43712, 2, 2), (43739, 3, 1), (43744, 16, 1),
   (43762, 4, 1), (43777, 6, 1), (43785, 6, 1), (43793, 6, 1), (43808, 7, 1), (43816, 7, 1),
   (43824, 43, 1), (43868, 14, 1), (43888, 123, 1), (44032, 11172, 1), (55216, 23, 1),
   (55243, 49, 1), (63744, 366, 1), (64112, 106, 1), (64256, 7, 1), (64275, 5, 1), (64285, 12, 1),
   (64298, 13, 1), (64312, 5, 1), (64318, 2, 2), (64321, 2, 2), (64324, 2, 2), (64327, 107, 1),
   (64467, 363, 1), (64848, 64, 1), (64914, 54, 1), (65008, 12, 1), (65136, 5, 1), (65142, 135, 1),
   (65313, 26, 1), (65345, 26, 1), (65382, 89, 1), (65474, 6, 1), (65482, 6, 1), (65490, 6, 1),
   (65498, 3, 1), (65536, 12, 1), (65549, 26, 1), (65576, 19, 1), (65596, 2, 1), (65599, 15, 1),
   (65616, 14, 1), (65664, 123, 1), (65856, 53, 1), (66176, 29, 1), (66208, 49, 1), (66304, 32, 1),
   (66349, 30, 1), (66384, 43, 1), (66432, 30, 1), (66464, 36, 1), (66504, 8, 1), (66513, 5, 1),
   (66560, 158, 1), (66736, 36, 1), (66776, 36, 1), (66816, 40, 1), (66864, 52, 1), (66928, 11, 1),
   (66940, 15, 1), (66956, 7, 1), (66964, 2, 1), (66967, 11, 1), (66979, 15, 1), (66995, 7, 1),
   (67003, 2, 1), (67008, 52, 1), (67072, 311, 1), (67392, 22, 1), (67424, 8, 1), (67456, 6, 1),
   (67463, 42, 1), (67506, 9, 1), (67584, 6, 1), (67592, 2, 2), (67595, 43, 1), (67639, 2, 1),
   (67644, 1, 1), (67647, 23, 1), (67680, 23, 1), (67712, 31, 1), (67808, 19, 1), (67828, 2, 1),
   (67840, 22, 1), (67872, 26, 1), (67904, 26, 1), (67968, 56, 1), (68030, 2, 1), (68096, 4, 1),
   (68101, 2, 1), (68108, 8, 1), (68117, 3, 1), (68121, 29, 1), (68192, 29, 1), (68224, 29, 1),
   (68288, 8, 1), (68297, 28, 1), (68352, 54, 1), (68416, 22, 1), (68448, 19, 1), (68480, 18, 1),
   (68608, 73, 1), (68736, 51, 1), (68800, 51, 1), (68864, 40, 1), (68938, 28, 1), (68969, 1, 1),
   (68975, 23, 1), (69248, 42, 1), (69291, 2, 1), (69296, 2, 1), (69314, 6, 1), (69370, 3, 1),
   (69376, 29, 1), (69415, 1, 1), (69424, 22, 1), (69488, 18, 1), (69552, 21, 1), (69600, 23, 1),
   (69632, 70, 1), (69745, 5, 1), (69760, 57, 1), (69826, 1, 1), (69840, 25, 1), (69888, 51, 1),
   (69956, 4, 1), (69968, 35, 1), (70006, 1, 1), (70016, 64, 1), (70081, 4, 1), (70094, 2, 1),
   (70106, 2, 2), (70144, 18, 1), (70163, 34, 1), (70199, 1, 1), (70206, 4, 1), (70272, 7, 1),
   (70280, 2, 2), (70283, 3, 1), (70287, 15, 1), (70303, 10, 1), (70320, 57, 1), (70400, 4, 1),
   (70405, 8, 1), (70415, 2, 1), (70419, 22, 1), (70442, 7, 1), (70450, 2, 1), (70453, 5, 1),
   (70461, 8, 1), (70471, 2, 1), (70475, 2, 1), (70480, 1, 1), (70487, 1, 1), (70493, 7, 1),
   (70528, 10, 1), (70539, 1, 1), (70542, 2, 2), (70545, 37, 1), (70583, 10, 1), (70594, 1, 1),
   (70597, 2, 2), (70600, 3, 1), (70604, 2, 1), (70609, 2, 2), (70656, 66, 1), (70723, 3, 1),
   (70727, 4, 1), (70751, 3, 1), (70784, 66, 1), (70852, 2, 1), (70855, 1, 1), (71040, 54, 1),
   (71096, 7, 1), (71128, 6, 1), (71168, 63, 1), (71232, 1, 1), (71236, 1, 1), (71296, 54, 1),
   (71352, 1, 1), (71424, 27, 1), (71453, 14, 1), (71488, 7, 1), (71680, 57, 1), (71840, 64, 1),
   (71935, 8, 1), (71945, 1, 1), (71948, 8, 1), (71957, 2, 1), (71960, 30, 1), (71991, 2, 1),
   (71995, 2, 1), (71999, 4, 1), (72096, 8, 1), (72106, 46, 1), (72154, 6, 1), (72161, 2, 2),
   (72164, 1, 1), (72192, 51, 1), (72245, 10, 1), (72272, 72, 1), (72349, 1, 1), (72368, 73, 1),
   (72544, 8, 1), (72640, 33, 1), (72704, 9, 1), (72714, 45, 1), (72760, 7, 1), (72768, 1, 1),
   (72818, 30, 1), (72850, 22, 1), (72873, 14, 1), (72960, 7, 1), (72968, 2, 1), (72971, 44, 1),
   (73018, 2, 2), (73021, 2, 2), (73024, 2, 1), (73027, 1, 1), (73030, 2, 1), (73056, 6, 1),
   (73063, 2, 1), (73066, 37, 1), (73104, 2, 1), (73107, 4, 1), (73112, 1, 1), (73136, 44, 1),
   (73440, 23, 1), (73472, 17, 1), (73490, 41, 1), (73534, 3, 1), (73648, 1, 1), (73728, 922, 1),
   (74752, 111, 1), (74880, 196, 1), (77712, 97, 1), (77824, 1072, 1), (78913, 6, 1),
   (78944, 3995, 1), (82944, 583, 1), (90368, 47, 1), (92160, 569, 1), (92736, 31, 1),
   (92784, 79, 1), (92880, 30, 1), (92928, 48, 1), (92992, 4, 1), (93027, 21, 1), (93053, 19, 1),
   (93504, 45, 1), (93760, 64, 1), (93856, 25, 1), (93883, 25, 1), (93952, 75, 1), (94031, 57, 1),
   (94095, 17, 1), (94176, 2, 1), (94179, 1, 1), (94192, 7, 1), (94208, 7382, 1), (101631, 32, 1),
   (101760, 115, 1), (110576, 4, 1), (110581, 7, 1), (110589, 2, 1), (110592, 291, 1),
   (110898, 1, 1), (110928, 3, 1), (110933, 1, 1), (110948, 4, 1), (110960, 396, 1),
   (113664, 107, 1), (113776, 13, 1), (113792, 9, 1), (113808, 10, 1), (113822, 1, 1),
   (119808, 85, 1), (119894, 71, 1), (119966, 2, 1), (119970, 1, 1), (119973, 2, 1),
   (119977, 4, 1), (119982, 12, 1), (119995, 2, 2), (119998, 6, 1), (120005, 65, 1),
   (120071, 4, 1), (120077, 8, 1), (120086, 7, 1), (120094, 28, 1), (120123, 4, 1), (120128, 5, 1),
   (120134, 1, 1), (120138, 7, 1), (120146, 340, 1), (120488, 25, 1), (120514, 25, 1),
   (120540, 31, 1), (120572, 25, 1), (120598, 31, 1), (120630, 25, 1), (120656, 31, 1),
   (120688, 25, 1), (120714, 31, 1), (120746, 25, 1), (120772, 8, 1), (122624, 31, 1),
   (122661, 6, 1), (122880, 7, 1), (122888, 17, 1), (122907, 7, 1), (122915, 2, 1), (122918, 5, 1),
   (122928, 62, 1), (123023, 1, 1), (123136, 45, 1), (123191, 7, 1), (123214, 1, 1),
   (123536, 30, 1), (123584, 44, 1), (124112, 28, 1), (124368, 30, 1), (124400, 1, 1),
   (124608, 31, 1), (124640, 22, 1), (124670, 2, 1), (124896, 7, 1), (124904, 4, 1),
   (124909, 2, 1), (124912, 15, 1), (124928, 197, 1), (125184, 68, 1), (125255, 1, 1),
   (125259, 1, 1), (126464, 4, 1), (126469, 27, 1), (126497, 2, 1), (126500, 1, 1), (126503, 2, 2),
   (126506, 9, 1), (126516, 4, 1), (126521, 2, 2), (126530, 1, 1), (126535, 4, 2), (126542, 2, 1),
   (126545, 2, 1), (126548, 1, 1), (126551, 6, 2), (126562, 2, 2), (126567, 4, 1), (126572, 7, 1),
   (126580, 4, 1), (126585, 4, 1), (126590, 2, 2), (126593, 9, 1), (126603, 17, 1), (126625, 3, 1),
   (126629, 5, 1), (126635, 17, 1), (127280, 26, 1), (127312, 26, 1), (127344, 26, 1),
   (131072, 42720, 1), (173824, 4382, 1), (178208, 5774, 1), (183984, 7473, 1), (191472, 622, 1),
   (194560, 542, 1), (196608, 4939, 1), (201552, 8490, 1)]

/-- The property `Lowercase`. -/
def lowercaseRuns : List Run :=
  [(97, 26, 1), (170, 1, 1), (181, 1, 1), (186, 1, 1), (223, 24, 1), (248, 8, 1), (257, 28, 2),
   (312, 9, 2), (329, 24, 2), (378, 3, 2), (383, 2, 1), (387, 2, 2), (392, 1, 1), (396, 2, 1),
   (402, 1, 1), (405, 1, 1), (409, 3, 1), (414, 1, 1), (417, 3, 2), (424, 2, 2), (427, 2, 2),
   (432, 1, 1), (436, 2, 2), (441, 2, 1), (445, 3, 1), (454, 1, 1), (457, 1, 1), (460, 9, 2),
   (477, 10, 2), (496, 1, 1), (499, 2, 2), (505, 30, 2), (564, 6, 1), (572, 1, 1), (575, 2, 1),
   (578, 1, 1), (583, 5, 2), (592, 68, 1), (662, 35, 1), (704, 2, 1), (736, 5, 1), (837, 1, 1),
   (881, 2, 2), (887, 1, 1), (890, 4, 1), (912, 1, 1), (940, 35, 1), (976, 2, 1), (981, 3, 1),
   (985, 12, 2), (1008, 4, 1), (1013, 1, 1), (1016, 1, 1), (1019, 2, 1), (1072, 48, 1),
   (1121, 17, 2), (1163, 27, 2), (1218, 7, 2), (1231, 49, 2), (1376, 41, 1), (4304, 43, 1),
   (4348, 4, 1), (5112, 6, 1), (7296, 9, 1), (7306, 1, 1), (7424, 192, 1), (7681, 75, 2),
   (7830, 8, 1), (7839, 49, 2), (7936, 8, 1), (7952, 6, 1), (7968, 8, 1), (7984, 8, 1),
   (8000, 6, 1), (8016, 8, 1), (8032, 8, 1), (8048, 14, 1), (8064, 8, 1), (8080, 8, 1),
   (8096, 8, 1), (8112, 5, 1), (8118, 2, 1), (8126, 1, 1), (8130, 3, 1), (8134, 2, 1),
   (8144, 4, 1), (8150, 2, 1), (8160, 8, 1), (8178, 3, 1), (8182, 2, 1), (8305, 1, 1),
   (8319, 1, 1), (8336, 13, 1), (8458, 1, 1), (8462, 2, 1), (8467, 1, 1), (8495, 1, 1),
   (8500, 1, 1), (8505, 1, 1), (8508, 2, 1), (8518, 4, 1), (8526, 1, 1), (8560, 16, 1),
   (8580, 1, 1), (9424, 26, 1), (11312, 48, 1), (11361, 1, 1), (11365, 2, 1), (11368, 3, 2),
   (11377, 2, 2), (11380, 2, 2), (11383, 7, 1), (11393, 50, 2), (11492, 1, 1), (11500, 2, 2),
   (11507, 1, 1), (11520, 38, 1), (11559, 1, 1), (11565, 1, 1), (42561, 23, 2), (42625, 14, 2),
   (42652, 2, 1), (42787, 7, 2), (42800, 2, 1), (42803, 31, 2), (42864, 9, 1), (42874, 2, 2),
   (42879, 5, 2), (42892, 2, 2), (42897, 2, 2), (42900, 2, 1), (42903, 10, 2), (42927, 1, 1),
   (42933, 8, 2), (42952, 2, 2), (42957, 8, 2), (42993, 4, 1), (42998, 2, 2), (43001, 2, 1),
   (43824, 43, 1), (43868, 14, 1), (43888, 80, 1), (64256, 7, 1), (64275, 5, 1), (65345, 26, 1),
   (66600, 40, 1), (66776, 36, 1), (66967, 11, 1), (66979, 15, 1), (66995, 7, 1), (67003, 2, 1),
   (67456, 1, 1), (67459, 3, 1), (67463, 42, 1), (67506, 9, 1), (68800, 51, 1), (68976, 22, 1),
   (71872, 32, 1), (93792, 32, 1), (93883, 25, 1), (119834, 26, 1), (119886, 7, 1),
   (119894, 18, 1), (119938, 26, 1), (119990, 4, 1), (119995, 2, 2), (119998, 6, 1),
   (120005, 11, 1), (120042, 26, 1), (120094, 26, 1), (120146, 26, 1), (120198, 26, 1),
   (120250, 26, 1), (120302, 26, 1), (120354, 26, 1), (120406, 26, 1), (120458, 28, 1),
   (120514, 25, 1), (120540, 6, 1), (120572, 25, 1), (120598, 6, 1), (120630, 25, 1),
   (120656, 6, 1), (120688, 25, 1), (120714, 6, 1), (120746, 25, 1), (120772, 6, 1),
   (120779, 1, 1), (122624, 10, 1), (122635, 20, 1), (122661, 6, 1), (122928, 62, 1),
   (125218, 34, 1)]

/-- The general categories by their two letters. -/
def categories : List (String × List Run) :=
  [("Lu", runsLu),
   ("Ll", runsLl),
   ("Lt", runsLt),
   ("Lm", runsLm),
   ("Lo", runsLo),
   ("Mn", runsMn),
   ("Mc", runsMc),
   ("Me", runsMe),
   ("Nd", runsNd),
   ("Nl", runsNl),
   ("No", runsNo),
   ("Pc", runsPc),
   ("Pd", runsPd),
   ("Ps", runsPs),
   ("Pe", runsPe),
   ("Pi", runsPi),
   ("Pf", runsPf),
   ("Po", runsPo),
   ("Sm", runsSm),
   ("Sc", runsSc),
   ("Sk", runsSk),
   ("So", runsSo),
   ("Zs", runsZs),
   ("Zl", runsZl),
   ("Zp", runsZp),
   ("Cc", runsCc),
   ("Cf", runsCf),
   ("Co", runsCo)]

/-- Is this an alphabetic character? -/
def isAlphabetic (c : Char) : Bool :=
  if c.toNat < 128 then isLetter c else inRuns alphabeticRuns c

/-- Is this a number of any kind? -/
def isNumeric (c : Char) : Bool :=
  if c.toNat < 128 then isDigit c else inRuns runsNd c || inRuns runsNl c || inRuns runsNo c

/-- Does the character belong to a word: is it alphabetic, a mark, a decimal digit, a connector
or a join control? -/
def isWordChar (c : Char) : Bool :=
  if c.toNat < 128 then isAlphanumeric c || c = '_'
  else
    inRuns alphabeticRuns c || inRuns runsMn c || inRuns runsMc c || inRuns runsMe c ||
      inRuns runsNd c || inRuns runsPc c || c.toNat == 0x200C || c.toNat == 0x200D

end Runbook.Text
