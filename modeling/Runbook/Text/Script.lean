import Runbook.Text.Run

/-!
# Scripts

The scripts of Unicode, and the characters that several of them share.
-/

namespace Runbook.Text

/-- A script: its names in lower case, long and short, the characters that are of it, and those of
other scripts or of none that are used in it too. -/
structure Script where
  names : List String
  runs : List Run
  shared : List Run

/-- The scripts in the order of their names. -/
def scripts : List Script :=
  [⟨["adlam", "adlm"],
    [(125184, 76, 1), (125264, 10, 1), (125278, 2, 1)],
    [(1567, 1, 1), (1600, 1, 1), (8271, 1, 1), (11841, 1, 1)]⟩,
   ⟨["ahom"], [(71424, 27, 1), (71453, 15, 1), (71472, 23, 1)], []⟩,
   ⟨["anatolianhieroglyphs", "hluw"], [(82944, 583, 1)], []⟩,
   ⟨["arabic", "arab"],
    [(1536, 5, 1), (1542, 6, 1), (1549, 14, 1), (1564, 3, 1), (1568, 32, 1), (1601, 10, 1),
     (1622, 26, 1), (1649, 108, 1), (1758, 34, 1), (1872, 48, 1), (2160, 34, 1), (2199, 75, 1),
     (2275, 29, 1), (64336, 494, 1), (64832, 144, 1), (65008, 16, 1), (65136, 5, 1),
     (65142, 135, 1), (69216, 31, 1), (69314, 6, 1), (69328, 9, 1), (69370, 6, 1), (126464, 4, 1),
     (126469, 27, 1), (126497, 2, 1), (126500, 1, 1), (126503, 1, 1), (126505, 10, 1),
     (126516, 4, 1), (126521, 2, 2), (126530, 1, 1), (126535, 3, 2), (126541, 3, 1), (126545, 2, 1),
     (126548, 1, 1), (126551, 5, 2), (126561, 2, 1), (126564, 1, 1), (126567, 4, 1), (126572, 7, 1),
     (126580, 4, 1), (126585, 4, 1), (126590, 1, 1), (126592, 10, 1), (126603, 17, 1),
     (126625, 3, 1), (126629, 5, 1), (126635, 17, 1), (126704, 2, 1)],
    [(1548, 1, 1), (1563, 1, 1), (1567, 1, 1), (1600, 1, 1), (1611, 11, 1), (1648, 1, 1),
     (8271, 1, 1), (11841, 1, 1), (64830, 2, 1), (66272, 28, 1)]⟩,
   ⟨["armenian", "armn"],
    [(1329, 38, 1), (1369, 50, 1), (1421, 3, 1), (64275, 5, 1)],
    [(776, 1, 1)]⟩,
   ⟨["avestan", "avst"], [(68352, 54, 1), (68409, 7, 1)], [(183, 1, 1), (11824, 2, 1)]⟩,
   ⟨["balinese", "bali"], [(6912, 77, 1), (6990, 50, 1)], []⟩,
   ⟨["bamum", "bamu"], [(42656, 88, 1), (92160, 569, 1)], []⟩,
   ⟨["bassavah", "bass"], [(92880, 30, 1), (92912, 6, 1)], []⟩,
   ⟨["batak", "batk"], [(7104, 52, 1), (7164, 4, 1)], []⟩,
   ⟨["bengali", "beng"],
    [(2432, 4, 1), (2437, 8, 1), (2447, 2, 1), (2451, 22, 1), (2474, 7, 1), (2482, 1, 1),
     (2486, 4, 1), (2492, 9, 1), (2503, 2, 1), (2507, 4, 1), (2519, 1, 1), (2524, 2, 1),
     (2527, 5, 1), (2534, 25, 1)],
    [(700, 1, 1), (2385, 2, 1), (2404, 2, 1), (7376, 2, 2), (7381, 2, 1), (7384, 1, 1),
     (7393, 1, 1), (7402, 1, 1), (7405, 1, 1), (7410, 1, 1), (7413, 3, 1), (43249, 1, 1)]⟩,
   ⟨["beriaerfe", "berf"], [(93856, 25, 1), (93883, 25, 1)], []⟩,
   ⟨["bhaiksuki", "bhks"], [(72704, 9, 1), (72714, 45, 1), (72760, 14, 1), (72784, 29, 1)], []⟩,
   ⟨["bopomofo", "bopo"],
    [(746, 2, 1), (12549, 43, 1), (12704, 32, 1)],
    [(711, 1, 1), (713, 3, 1), (729, 1, 1), (12289, 3, 1), (12296, 10, 1), (12307, 13, 1),
     (12330, 4, 1), (12336, 1, 1), (12343, 1, 1), (12539, 1, 1), (65093, 2, 1), (65377, 5, 1)]⟩,
   ⟨["brahmi", "brah"], [(69632, 78, 1), (69714, 36, 1), (69759, 1, 1)], []⟩,
   ⟨["braille", "brai"], [(10240, 256, 1)], []⟩,
   ⟨["buginese", "bugi"], [(6656, 28, 1), (6686, 2, 1)], [(43471, 1, 1)]⟩,
   ⟨["buhid", "buhd"], [(5952, 20, 1)], [(5941, 2, 1)]⟩,
   ⟨["canadianaboriginal", "cans"], [(5120, 640, 1), (6320, 70, 1), (72368, 16, 1)], []⟩,
   ⟨["carian", "cari"], [(66208, 49, 1)], [(183, 1, 1), (8282, 1, 1), (8285, 1, 1), (11825, 1, 1)]⟩,
   ⟨["caucasianalbanian", "aghb"],
    [(66864, 52, 1), (66927, 1, 1)],
    [(772, 1, 1), (817, 1, 1), (862, 1, 1)]⟩,
   ⟨["chakma", "cakm"], [(69888, 53, 1), (69942, 18, 1)], [(2534, 10, 1), (4160, 10, 1)]⟩,
   ⟨["cham"], [(43520, 55, 1), (43584, 14, 1), (43600, 10, 1), (43612, 4, 1)], []⟩,
   ⟨["cherokee", "cher"],
    [(5024, 86, 1), (5112, 6, 1), (43888, 80, 1)],
    [(768, 3, 1), (772, 1, 1), (779, 2, 1), (803, 2, 1), (816, 2, 1)]⟩,
   ⟨["chorasmian", "chrs"], [(69552, 28, 1)], []⟩,
   ⟨["common", "zyyy"],
    [(0, 65, 1), (91, 6, 1), (123, 47, 1), (171, 15, 1), (187, 5, 1), (215, 1, 1), (247, 1, 1),
     (697, 39, 1), (741, 5, 1), (748, 20, 1), (884, 1, 1), (894, 1, 1), (901, 2, 2), (1541, 1, 1),
     (1548, 1, 1), (1563, 1, 1), (1567, 1, 1), (1600, 1, 1), (1757, 1, 1), (2274, 1, 1),
     (2404, 2, 1), (3647, 1, 1), (4053, 4, 1), (4347, 1, 1), (5867, 3, 1), (5941, 2, 1),
     (6146, 2, 1), (6149, 1, 1), (7379, 1, 1), (7393, 1, 1), (7401, 4, 1), (7406, 6, 1),
     (7413, 3, 1), (7418, 1, 1), (8192, 12, 1), (8206, 87, 1), (8294, 11, 1), (8308, 11, 1),
     (8320, 15, 1), (8352, 34, 1), (8448, 38, 1), (8487, 3, 1), (8492, 6, 1), (8499, 27, 1),
     (8527, 17, 1), (8585, 3, 1), (8592, 666, 1), (9280, 11, 1), (9312, 928, 1), (10496, 628, 1),
     (11126, 138, 1), (11776, 94, 1), (12272, 21, 1), (12294, 1, 1), (12296, 25, 1), (12336, 8, 1),
     (12348, 4, 1), (12443, 2, 1), (12448, 1, 1), (12539, 2, 1), (12688, 16, 1), (12736, 38, 1),
     (12783, 1, 1), (12832, 64, 1), (12927, 81, 1), (13055, 1, 1), (13144, 168, 1), (19904, 64, 1),
     (42752, 34, 1), (42888, 3, 1), (43056, 10, 1), (43310, 1, 1), (43471, 1, 1), (43867, 1, 1),
     (43882, 2, 1), (64830, 2, 1), (65040, 10, 1), (65072, 35, 1), (65108, 19, 1), (65128, 4, 1),
     (65279, 1, 1), (65281, 32, 1), (65339, 6, 1), (65371, 11, 1), (65392, 1, 1), (65438, 2, 1),
     (65504, 7, 1), (65512, 7, 1), (65529, 5, 1), (65792, 3, 1), (65799, 45, 1), (65847, 9, 1),
     (65936, 13, 1), (66000, 45, 1), (66273, 27, 1), (113824, 4, 1), (117760, 253, 1),
     (118016, 436, 1), (118458, 23, 1), (118496, 17, 1), (118608, 116, 1), (118784, 246, 1),
     (119040, 39, 1), (119081, 62, 1), (119146, 17, 1), (119171, 2, 1), (119180, 30, 1),
     (119214, 61, 1), (119488, 20, 1), (119520, 20, 1), (119552, 87, 1), (119648, 25, 1),
     (119808, 85, 1), (119894, 71, 1), (119966, 2, 1), (119970, 1, 1), (119973, 2, 1),
     (119977, 4, 1), (119982, 12, 1), (119995, 1, 1), (119997, 7, 1), (120005, 65, 1),
     (120071, 4, 1), (120077, 8, 1), (120086, 7, 1), (120094, 28, 1), (120123, 4, 1),
     (120128, 5, 1), (120134, 1, 1), (120138, 7, 1), (120146, 340, 1), (120488, 292, 1),
     (120782, 50, 1), (126065, 68, 1), (126209, 61, 1), (126976, 44, 1), (127024, 100, 1),
     (127136, 15, 1), (127153, 15, 1), (127169, 15, 1), (127185, 37, 1), (127232, 174, 1),
     (127462, 26, 1), (127489, 2, 1), (127504, 44, 1), (127552, 9, 1), (127568, 2, 1),
     (127584, 6, 1), (127744, 985, 1), (128732, 17, 1), (128752, 13, 1), (128768, 218, 1),
     (128992, 12, 1), (129008, 1, 1), (129024, 12, 1), (129040, 56, 1), (129104, 10, 1),
     (129120, 40, 1), (129168, 30, 1), (129200, 12, 1), (129216, 2, 1), (129232, 9, 1),
     (129280, 344, 1), (129632, 14, 1), (129648, 13, 1), (129664, 11, 1), (129678, 57, 1),
     (129736, 1, 1), (129741, 16, 1), (129759, 12, 1), (129775, 10, 1), (129792, 147, 1),
     (129940, 103, 1), (917505, 1, 1), (917536, 96, 1)],
    []⟩,
   ⟨["coptic", "copt", "qaac"],
    [(994, 14, 1), (11392, 116, 1), (11513, 7, 1)],
    [(183, 1, 1), (768, 1, 1), (772, 2, 1), (775, 1, 1), (884, 2, 1), (11799, 1, 1),
     (66272, 28, 1)]⟩,
   ⟨["cuneiform", "xsux"], [(73728, 922, 1), (74752, 111, 1), (74864, 5, 1), (74880, 196, 1)], []⟩,
   ⟨["cypriot", "cprt"],
    [(67584, 6, 1), (67592, 1, 1), (67594, 44, 1), (67639, 2, 1), (67644, 1, 1), (67647, 1, 1)],
    [(65792, 3, 1), (65799, 45, 1), (65847, 9, 1)]⟩,
   ⟨["cyprominoan", "cpmn"], [(77712, 99, 1)], [(65792, 2, 1)]⟩,
   ⟨["cyrillic", "cyrl"],
    [(1024, 133, 1), (1159, 169, 1), (7296, 11, 1), (7467, 1, 1), (7544, 1, 1), (11744, 32, 1),
     (42560, 96, 1), (65070, 2, 1), (122928, 62, 1), (123023, 1, 1)],
    [(700, 1, 1), (768, 3, 1), (772, 3, 2), (779, 1, 1), (785, 1, 1), (1157, 2, 1), (7672, 1, 1),
     (11843, 1, 1)]⟩,
   ⟨["deseret", "dsrt"], [(66560, 80, 1)], []⟩,
   ⟨["devanagari", "deva"],
    [(2304, 81, 1), (2389, 15, 1), (2406, 26, 1), (43232, 32, 1), (72448, 10, 1)],
    [(700, 1, 1), (2385, 2, 1), (2404, 2, 1), (7376, 39, 1), (7416, 2, 1), (8432, 1, 1),
     (43056, 10, 1)]⟩,
   ⟨["divesakuru", "diak"],
    [(71936, 7, 1), (71945, 1, 1), (71948, 8, 1), (71957, 2, 1), (71960, 30, 1), (71991, 2, 1),
     (71995, 12, 1), (72016, 10, 1)],
    []⟩,
   ⟨["dogra", "dogr"], [(71680, 60, 1)], [(2404, 12, 1), (43056, 10, 1)]⟩,
   ⟨["duployan", "dupl"],
    [(113664, 107, 1), (113776, 13, 1), (113792, 9, 1), (113808, 10, 1), (113820, 4, 1)],
    [(183, 1, 1), (775, 2, 1), (778, 1, 1), (803, 2, 1), (11836, 1, 1), (113824, 4, 1)]⟩,
   ⟨["egyptianhieroglyphs", "egyp"], [(77824, 1110, 1), (78944, 3995, 1)], []⟩,
   ⟨["elbasan", "elba"], [(66816, 40, 1)], [(183, 1, 1), (773, 1, 1)]⟩,
   ⟨["elymaic", "elym"], [(69600, 23, 1)], []⟩,
   ⟨["ethiopic", "ethi"],
    [(4608, 73, 1), (4682, 4, 1), (4688, 7, 1), (4696, 1, 1), (4698, 4, 1), (4704, 41, 1),
     (4746, 4, 1), (4752, 33, 1), (4786, 4, 1), (4792, 7, 1), (4800, 1, 1), (4802, 4, 1),
     (4808, 15, 1), (4824, 57, 1), (4882, 4, 1), (4888, 67, 1), (4957, 32, 1), (4992, 26, 1),
     (11648, 23, 1), (11680, 7, 1), (11688, 7, 1), (11696, 7, 1), (11704, 7, 1), (11712, 7, 1),
     (11720, 7, 1), (11728, 7, 1), (11736, 7, 1), (43777, 6, 1), (43785, 6, 1), (43793, 6, 1),
     (43808, 7, 1), (43816, 7, 1), (124896, 7, 1), (124904, 4, 1), (124909, 2, 1), (124912, 15, 1)],
    [(782, 1, 1)]⟩,
   ⟨["garay", "gara"],
    [(68928, 38, 1), (68969, 29, 1), (69006, 2, 1)],
    [(1548, 1, 1), (1563, 1, 1), (1567, 1, 1)]⟩,
   ⟨["georgian", "geor"],
    [(4256, 38, 1), (4295, 1, 1), (4301, 1, 1), (4304, 43, 1), (4348, 4, 1), (7312, 43, 1),
     (7357, 3, 1), (11520, 38, 1), (11559, 1, 1), (11565, 1, 1)],
    [(183, 1, 1), (1417, 1, 1), (4347, 1, 1), (8282, 1, 1), (11825, 1, 1)]⟩,
   ⟨["glagolitic", "glag"],
    [(11264, 96, 1), (122880, 7, 1), (122888, 17, 1), (122907, 7, 1), (122915, 2, 1),
     (122918, 5, 1)],
    [(183, 1, 1), (771, 2, 2), (1156, 1, 1), (1159, 1, 1), (1417, 1, 1), (4347, 1, 1), (8282, 1, 1),
     (11843, 1, 1), (42607, 1, 1)]⟩,
   ⟨["gothic", "goth"], [(66352, 27, 1)], [(183, 1, 1), (772, 2, 1), (776, 1, 1), (817, 1, 1)]⟩,
   ⟨["grantha", "gran"],
    [(70400, 4, 1), (70405, 8, 1), (70415, 2, 1), (70419, 22, 1), (70442, 7, 1), (70450, 2, 1),
     (70453, 5, 1), (70460, 9, 1), (70471, 2, 1), (70475, 3, 1), (70480, 1, 1), (70487, 1, 1),
     (70493, 7, 1), (70502, 7, 1), (70512, 5, 1)],
    [(2385, 2, 1), (2404, 2, 1), (3046, 14, 1), (7376, 1, 1), (7378, 2, 1), (7410, 3, 1),
     (7416, 2, 1), (8432, 1, 1), (70459, 1, 1), (73680, 2, 1), (73683, 1, 1)]⟩,
   ⟨["greek", "grek"],
    [(880, 4, 1), (885, 3, 1), (890, 4, 1), (895, 1, 1), (900, 2, 2), (904, 3, 1), (908, 1, 1),
     (910, 20, 1), (931, 63, 1), (1008, 16, 1), (7462, 5, 1), (7517, 5, 1), (7526, 5, 1),
     (7615, 1, 1), (7936, 22, 1), (7960, 6, 1), (7968, 38, 1), (8008, 6, 1), (8016, 8, 1),
     (8025, 3, 2), (8031, 31, 1), (8064, 53, 1), (8118, 15, 1), (8134, 14, 1), (8150, 6, 1),
     (8157, 19, 1), (8178, 3, 1), (8182, 9, 1), (8486, 1, 1), (43877, 1, 1), (65856, 79, 1),
     (65952, 1, 1), (119296, 70, 1)],
    [(183, 1, 1), (768, 2, 1), (772, 3, 2), (787, 1, 1), (834, 1, 1), (837, 1, 1), (884, 1, 1),
     (7616, 2, 1), (8285, 1, 1)]⟩,
   ⟨["gujarati", "gujr"],
    [(2689, 3, 1), (2693, 9, 1), (2703, 3, 1), (2707, 22, 1), (2730, 7, 1), (2738, 2, 1),
     (2741, 5, 1), (2748, 10, 1), (2759, 3, 1), (2763, 3, 1), (2768, 1, 1), (2784, 4, 1),
     (2790, 12, 1), (2809, 7, 1)],
    [(2385, 2, 1), (2404, 2, 1), (43056, 10, 1)]⟩,
   ⟨["gunjalagondi", "gong"],
    [(73056, 6, 1), (73063, 2, 1), (73066, 37, 1), (73104, 2, 1), (73107, 6, 1), (73120, 10, 1)],
    [(183, 1, 1), (2404, 2, 1)]⟩,
   ⟨["gurmukhi", "guru"],
    [(2561, 3, 1), (2565, 6, 1), (2575, 2, 1), (2579, 22, 1), (2602, 7, 1), (2610, 2, 1),
     (2613, 2, 1), (2616, 2, 1), (2620, 1, 1), (2622, 5, 1), (2631, 2, 1), (2635, 3, 1),
     (2641, 1, 1), (2649, 4, 1), (2654, 1, 1), (2662, 17, 1)],
    [(2385, 2, 1), (2404, 2, 1), (43056, 10, 1)]⟩,
   ⟨["gurungkhema", "gukh"], [(90368, 58, 1)], [(2405, 1, 1)]⟩,
   ⟨["han", "hani"],
    [(11904, 26, 1), (11931, 89, 1), (12032, 214, 1), (12293, 2, 2), (12321, 9, 1), (12344, 4, 1),
     (13312, 6592, 1), (19968, 20992, 1), (63744, 366, 1), (64112, 106, 1), (94178, 2, 1),
     (94192, 7, 1), (131072, 42720, 1), (173824, 4382, 1), (178208, 5774, 1), (183984, 7473, 1),
     (191472, 622, 1), (194560, 542, 1), (196608, 4939, 1), (201552, 8490, 1)],
    [(183, 1, 1), (12272, 16, 1), (12289, 3, 1), (12294, 1, 1), (12296, 10, 1), (12307, 13, 1),
     (12330, 4, 1), (12336, 1, 1), (12343, 1, 1), (12348, 4, 1), (12539, 1, 1), (12688, 16, 1),
     (12736, 38, 1), (12783, 1, 1), (12832, 40, 1), (12928, 49, 1), (12992, 12, 1), (13055, 1, 1),
     (13144, 25, 1), (13179, 5, 1), (13280, 31, 1), (42752, 8, 1), (65093, 2, 1), (65377, 5, 1),
     (119648, 18, 1), (127568, 2, 1)]⟩,
   ⟨["hangul", "hang"],
    [(4352, 256, 1), (12334, 2, 1), (12593, 94, 1), (12800, 31, 1), (12896, 31, 1), (43360, 29, 1),
     (44032, 11172, 1), (55216, 23, 1), (55243, 49, 1), (65440, 31, 1), (65474, 6, 1),
     (65482, 6, 1), (65490, 6, 1), (65498, 3, 1)],
    [(12289, 3, 1), (12296, 10, 1), (12307, 13, 1), (12336, 1, 1), (12343, 1, 1), (12539, 1, 1),
     (65093, 2, 1), (65377, 5, 1)]⟩,
   ⟨["hanifirohingya", "rohg"],
    [(68864, 40, 1), (68912, 10, 1)],
    [(1548, 1, 1), (1563, 1, 1), (1567, 1, 1), (1600, 1, 1), (1748, 1, 1)]⟩,
   ⟨["hanunoo", "hano"], [(5920, 21, 1)], [(5941, 2, 1)]⟩,
   ⟨["hatran", "hatr"], [(67808, 19, 1), (67828, 2, 1), (67835, 5, 1)], []⟩,
   ⟨["hebrew", "hebr"],
    [(1425, 55, 1), (1488, 27, 1), (1519, 6, 1), (64285, 26, 1), (64312, 5, 1), (64318, 1, 1),
     (64320, 2, 1), (64323, 2, 1), (64326, 10, 1)],
    [(775, 2, 1)]⟩,
   ⟨["hiragana", "hira"],
    [(12353, 86, 1), (12445, 3, 1), (110593, 287, 1), (110898, 1, 1), (110928, 3, 1),
     (127488, 1, 1)],
    [(12289, 3, 1), (12296, 10, 1), (12307, 13, 1), (12336, 6, 1), (12343, 1, 1), (12348, 2, 1),
     (12441, 4, 1), (12448, 1, 1), (12539, 2, 1), (65093, 2, 1), (65377, 5, 1), (65392, 1, 1),
     (65438, 2, 1)]⟩,
   ⟨["imperialaramaic", "armi"], [(67648, 22, 1), (67671, 9, 1)], []⟩,
   ⟨["inherited", "qaai", "zinh"],
    [(768, 112, 1), (1157, 2, 1), (1611, 11, 1), (1648, 1, 1), (2385, 4, 1), (6832, 46, 1),
     (6880, 12, 1), (7376, 3, 1), (7380, 13, 1), (7394, 7, 1), (7405, 1, 1), (7412, 1, 1),
     (7416, 2, 1), (7616, 64, 1), (8204, 2, 1), (8400, 33, 1), (12330, 4, 1), (12441, 2, 1),
     (65024, 16, 1), (65056, 14, 1), (66045, 1, 1), (66272, 1, 1), (70459, 1, 1), (118528, 46, 1),
     (118576, 23, 1), (119143, 3, 1), (119163, 8, 1), (119173, 7, 1), (119210, 4, 1),
     (917760, 240, 1)],
    []⟩,
   ⟨["inscriptionalpahlavi", "phli"], [(68448, 19, 1), (68472, 8, 1)], []⟩,
   ⟨["inscriptionalparthian", "prti"], [(68416, 22, 1), (68440, 8, 1)], []⟩,
   ⟨["javanese", "java"], [(43392, 78, 1), (43472, 10, 1), (43486, 2, 1)], [(43471, 1, 1)]⟩,
   ⟨["kaithi", "kthi"],
    [(69760, 67, 1), (69837, 1, 1)],
    [(2406, 10, 1), (11825, 1, 1), (43056, 10, 1)]⟩,
   ⟨["kannada", "knda"],
    [(3200, 13, 1), (3214, 3, 1), (3218, 23, 1), (3242, 10, 1), (3253, 5, 1), (3260, 9, 1),
     (3270, 3, 1), (3274, 4, 1), (3285, 2, 1), (3292, 3, 1), (3296, 4, 1), (3302, 10, 1),
     (3313, 3, 1)],
    [(2385, 2, 1), (2404, 2, 1), (7376, 1, 1), (7378, 2, 1), (7386, 1, 1), (7410, 2, 2),
     (43056, 6, 1)]⟩,
   ⟨["katakana", "kana"],
    [(12449, 90, 1), (12541, 3, 1), (12784, 16, 1), (13008, 47, 1), (13056, 88, 1), (65382, 10, 1),
     (65393, 45, 1), (110576, 4, 1), (110581, 7, 1), (110589, 2, 1), (110592, 1, 1), (110880, 3, 1),
     (110933, 1, 1), (110948, 4, 1)],
    [(773, 1, 1), (803, 1, 1), (12289, 3, 1), (12296, 10, 1), (12307, 13, 1), (12336, 6, 1),
     (12343, 1, 1), (12348, 2, 1), (12441, 4, 1), (12448, 1, 1), (12539, 2, 1), (65093, 2, 1),
     (65377, 5, 1), (65392, 1, 1), (65438, 2, 1)]⟩,
   ⟨["kawi"], [(73472, 17, 1), (73490, 41, 1), (73534, 29, 1)], []⟩,
   ⟨["kayahli", "kali"], [(43264, 46, 1), (43311, 1, 1)], [(43310, 1, 1)]⟩,
   ⟨["kharoshthi", "khar"],
    [(68096, 4, 1), (68101, 2, 1), (68108, 8, 1), (68117, 3, 1), (68121, 29, 1), (68152, 3, 1),
     (68159, 10, 1), (68176, 9, 1)],
    []⟩,
   ⟨["khitansmallscript", "kits"], [(94180, 1, 1), (101120, 470, 1), (101631, 1, 1)], []⟩,
   ⟨["khmer", "khmr"], [(6016, 94, 1), (6112, 10, 1), (6128, 10, 1), (6624, 32, 1)], []⟩,
   ⟨["khojki", "khoj"], [(70144, 18, 1), (70163, 47, 1)], [(2790, 10, 1), (43056, 10, 1)]⟩,
   ⟨["khudawadi", "sind"], [(70320, 59, 1), (70384, 10, 1)], [(2404, 2, 1), (43056, 10, 1)]⟩,
   ⟨["kiratrai", "krai"], [(93504, 58, 1)], []⟩,
   ⟨["lao", "laoo"],
    [(3713, 2, 1), (3716, 1, 1), (3718, 5, 1), (3724, 24, 1), (3749, 1, 1), (3751, 23, 1),
     (3776, 5, 1), (3782, 1, 1), (3784, 7, 1), (3792, 10, 1), (3804, 4, 1)],
    []⟩,
   ⟨["latin", "latn"],
    [(65, 26, 1), (97, 26, 1), (170, 1, 1), (186, 1, 1), (192, 23, 1), (216, 31, 1), (248, 449, 1),
     (736, 5, 1), (7424, 38, 1), (7468, 49, 1), (7522, 4, 1), (7531, 13, 1), (7545, 70, 1),
     (7680, 256, 1), (8305, 1, 1), (8319, 1, 1), (8336, 13, 1), (8490, 2, 1), (8498, 1, 1),
     (8526, 1, 1), (8544, 41, 1), (11360, 32, 1), (42786, 102, 1), (42891, 82, 1), (42993, 15, 1),
     (43824, 43, 1), (43868, 9, 1), (43878, 4, 1), (64256, 7, 1), (65313, 26, 1), (65345, 26, 1),
     (67456, 6, 1), (67463, 42, 1), (67506, 9, 1), (122624, 31, 1), (122661, 6, 1)],
    [(183, 1, 1), (700, 1, 1), (711, 1, 1), (713, 3, 1), (717, 1, 1), (727, 2, 2), (768, 15, 1),
     (784, 2, 1), (787, 1, 1), (803, 3, 1), (813, 2, 1), (816, 2, 1), (856, 1, 1), (862, 1, 1),
     (867, 13, 1), (1157, 2, 1), (2385, 2, 1), (4347, 1, 1), (7672, 1, 1), (8239, 1, 1),
     (8432, 1, 1), (11799, 1, 1), (42752, 8, 1), (43310, 1, 1)]⟩,
   ⟨["lepcha", "lepc"], [(7168, 56, 1), (7227, 15, 1), (7245, 3, 1)], []⟩,
   ⟨["limbu", "limb"],
    [(6400, 31, 1), (6432, 12, 1), (6448, 12, 1), (6464, 1, 1), (6468, 12, 1)],
    [(2405, 1, 1)]⟩,
   ⟨["lineara", "lina"], [(67072, 311, 1), (67392, 22, 1), (67424, 8, 1)], [(65799, 45, 1)]⟩,
   ⟨["linearb", "linb"],
    [(65536, 12, 1), (65549, 26, 1), (65576, 19, 1), (65596, 2, 1), (65599, 15, 1), (65616, 14, 1),
     (65664, 123, 1)],
    [(65792, 3, 1), (65799, 45, 1), (65847, 9, 1)]⟩,
   ⟨["lisu"], [(42192, 48, 1), (73648, 1, 1)], [(700, 1, 1), (717, 1, 1), (12298, 2, 1)]⟩,
   ⟨["lycian", "lyci"], [(66176, 29, 1)], [(8282, 1, 1)]⟩,
   ⟨["lydian", "lydi"], [(67872, 26, 1), (67903, 1, 1)], [(183, 1, 1), (11825, 1, 1)]⟩,
   ⟨["mahajani", "mahj"], [(69968, 39, 1)], [(183, 1, 1), (2404, 12, 1), (43056, 10, 1)]⟩,
   ⟨["makasar", "maka"], [(73440, 25, 1)], []⟩,
   ⟨["malayalam", "mlym"],
    [(3328, 13, 1), (3342, 3, 1), (3346, 51, 1), (3398, 3, 1), (3402, 6, 1), (3412, 16, 1),
     (3430, 26, 1)],
    [(2385, 2, 1), (2404, 2, 1), (7386, 1, 1), (7410, 1, 1), (43056, 3, 1)]⟩,
   ⟨["mandaic", "mand"], [(2112, 28, 1), (2142, 1, 1)], [(1600, 1, 1)]⟩,
   ⟨["manichaean", "mani"], [(68288, 39, 1), (68331, 12, 1)], [(1600, 1, 1)]⟩,
   ⟨["marchen", "marc"], [(72816, 32, 1), (72850, 22, 1), (72873, 14, 1)], []⟩,
   ⟨["masaramgondi", "gonm"],
    [(72960, 7, 1), (72968, 2, 1), (72971, 44, 1), (73018, 1, 1), (73020, 2, 1), (73023, 9, 1),
     (73040, 10, 1)],
    [(2404, 2, 1)]⟩,
   ⟨["medefaidrin", "medf"], [(93760, 91, 1)], []⟩,
   ⟨["meeteimayek", "mtei"], [(43744, 23, 1), (43968, 46, 1), (44016, 10, 1)], []⟩,
   ⟨["mendekikakui", "mend"], [(124928, 197, 1), (125127, 16, 1)], []⟩,
   ⟨["meroiticcursive", "merc"], [(68000, 24, 1), (68028, 20, 1), (68050, 46, 1)], []⟩,
   ⟨["meroitichieroglyphs", "mero"], [(67968, 32, 1)], [(8285, 1, 1)]⟩,
   ⟨["miao", "plrd"], [(93952, 75, 1), (94031, 57, 1), (94095, 17, 1)], []⟩,
   ⟨["modi"], [(71168, 69, 1), (71248, 10, 1)], [(43056, 10, 1)]⟩,
   ⟨["mongolian", "mong"],
    [(6144, 2, 1), (6148, 1, 1), (6150, 20, 1), (6176, 89, 1), (6272, 43, 1), (71264, 13, 1)],
    [(6146, 2, 1), (6149, 1, 1), (8239, 1, 1), (12289, 2, 1), (12296, 4, 1)]⟩,
   ⟨["mro", "mroo"], [(92736, 31, 1), (92768, 10, 1), (92782, 2, 1)], []⟩,
   ⟨["multani", "mult"],
    [(70272, 7, 1), (70280, 1, 1), (70282, 4, 1), (70287, 15, 1), (70303, 11, 1)],
    [(2662, 10, 1)]⟩,
   ⟨["myanmar", "mymr"],
    [(4096, 160, 1), (43488, 31, 1), (43616, 32, 1), (71376, 20, 1)],
    [(43310, 1, 1)]⟩,
   ⟨["nabataean", "nbat"], [(67712, 31, 1), (67751, 9, 1)], []⟩,
   ⟨["nagmundari", "nagm"], [(124112, 42, 1)], []⟩,
   ⟨["nandinagari", "nand"],
    [(72096, 8, 1), (72106, 46, 1), (72154, 11, 1)],
    [(2385, 1, 1), (2404, 2, 1), (3302, 10, 1), (7401, 1, 1), (7410, 1, 1), (7418, 1, 1),
     (43056, 6, 1)]⟩,
   ⟨["newtailue", "talu"], [(6528, 44, 1), (6576, 26, 1), (6608, 11, 1), (6622, 2, 1)], []⟩,
   ⟨["newa"],
    [(70656, 92, 1), (70749, 5, 1)],
    [(2385, 2, 1), (7381, 1, 1), (7383, 2, 1), (7394, 1, 1), (7401, 3, 2)]⟩,
   ⟨["nko", "nkoo"],
    [(1984, 59, 1), (2045, 3, 1)],
    [(1548, 1, 1), (1563, 1, 1), (1567, 1, 1), (64830, 2, 1)]⟩,
   ⟨["nushu", "nshu"], [(94177, 1, 1), (110960, 396, 1)], []⟩,
   ⟨["nyiakengpuachuehmong", "hmnp"],
    [(123136, 45, 1), (123184, 14, 1), (123200, 10, 1), (123214, 2, 1)],
    []⟩,
   ⟨["ogham", "ogam"], [(5760, 29, 1)], []⟩,
   ⟨["olchiki", "olck"], [(7248, 48, 1)], []⟩,
   ⟨["olonal", "onao"], [(124368, 43, 1), (124415, 1, 1)], [(2404, 2, 1)]⟩,
   ⟨["oldhungarian", "hung"],
    [(68736, 51, 1), (68800, 51, 1), (68858, 6, 1)],
    [(8282, 1, 1), (8285, 1, 1), (11825, 1, 1), (11841, 1, 1)]⟩,
   ⟨["olditalic", "ital"], [(66304, 36, 1), (66349, 3, 1)], []⟩,
   ⟨["oldnortharabian", "narb"], [(68224, 32, 1)], []⟩,
   ⟨["oldpermic", "perm"],
    [(66384, 43, 1)],
    [(183, 1, 1), (768, 1, 1), (774, 3, 1), (787, 1, 1), (1155, 1, 1)]⟩,
   ⟨["oldpersian", "xpeo"], [(66464, 36, 1), (66504, 14, 1)], []⟩,
   ⟨["oldsogdian", "sogo"], [(69376, 40, 1)], []⟩,
   ⟨["oldsoutharabian", "sarb"], [(68192, 32, 1)], []⟩,
   ⟨["oldturkic", "orkh"], [(68608, 73, 1)], [(8282, 1, 1), (11824, 1, 1)]⟩,
   ⟨["olduyghur", "ougr"], [(69488, 26, 1)], [(1600, 1, 1), (68338, 1, 1)]⟩,
   ⟨["oriya", "orya"],
    [(2817, 3, 1), (2821, 8, 1), (2831, 2, 1), (2835, 22, 1), (2858, 7, 1), (2866, 2, 1),
     (2869, 5, 1), (2876, 9, 1), (2887, 2, 1), (2891, 3, 1), (2901, 3, 1), (2908, 2, 1),
     (2911, 5, 1), (2918, 18, 1)],
    [(2385, 2, 1), (2404, 2, 1), (7386, 1, 1), (7410, 1, 1)]⟩,
   ⟨["osage", "osge"],
    [(66736, 36, 1), (66776, 36, 1)],
    [(769, 1, 1), (772, 1, 1), (779, 1, 1), (856, 1, 1)]⟩,
   ⟨["osmanya", "osma"], [(66688, 30, 1), (66720, 10, 1)], []⟩,
   ⟨["pahawhhmong", "hmng"],
    [(92928, 70, 1), (93008, 10, 1), (93019, 7, 1), (93027, 21, 1), (93053, 19, 1)],
    []⟩,
   ⟨["palmyrene", "palm"], [(67680, 32, 1)], []⟩,
   ⟨["paucinhau", "pauc"], [(72384, 57, 1)], []⟩,
   ⟨["phagspa", "phag"],
    [(43072, 56, 1)],
    [(6146, 2, 1), (6149, 1, 1), (8239, 1, 1), (12290, 1, 1)]⟩,
   ⟨["phoenician", "phnx"], [(67840, 28, 1), (67871, 1, 1)], []⟩,
   ⟨["psalterpahlavi", "phlp"], [(68480, 18, 1), (68505, 4, 1), (68521, 7, 1)], [(1600, 1, 1)]⟩,
   ⟨["rejang", "rjng"], [(43312, 36, 1), (43359, 1, 1)], []⟩,
   ⟨["runic", "runr"], [(5792, 75, 1), (5870, 11, 1)], [(5867, 3, 1)]⟩,
   ⟨["samaritan", "samr"], [(2048, 46, 1), (2096, 15, 1)], [(11825, 1, 1)]⟩,
   ⟨["saurashtra", "saur"], [(43136, 70, 1), (43214, 12, 1)], []⟩,
   ⟨["sharada", "shrd"],
    [(70016, 96, 1), (72544, 8, 1)],
    [(2385, 1, 1), (7383, 2, 2), (7388, 2, 1), (7392, 1, 1), (7402, 1, 1), (7405, 1, 1),
     (43056, 6, 1), (43064, 1, 1)]⟩,
   ⟨["shavian", "shaw"], [(66640, 48, 1)], [(183, 1, 1)]⟩,
   ⟨["siddham", "sidd"], [(71040, 54, 1), (71096, 38, 1)], []⟩,
   ⟨["sidetic", "sidt"], [(67904, 26, 1)], []⟩,
   ⟨["signwriting", "sgnw"], [(120832, 652, 1), (121499, 5, 1), (121505, 15, 1)], []⟩,
   ⟨["sinhala", "sinh"],
    [(3457, 3, 1), (3461, 18, 1), (3482, 24, 1), (3507, 9, 1), (3517, 1, 1), (3520, 7, 1),
     (3530, 1, 1), (3535, 6, 1), (3542, 1, 1), (3544, 8, 1), (3558, 10, 1), (3570, 3, 1),
     (70113, 20, 1)],
    [(2404, 2, 1), (7410, 1, 1)]⟩,
   ⟨["sogdian", "sogd"], [(69424, 42, 1)], [(1600, 1, 1)]⟩,
   ⟨["sorasompeng", "sora"], [(69840, 25, 1), (69872, 10, 1)], []⟩,
   ⟨["soyombo", "soyo"], [(72272, 83, 1)], []⟩,
   ⟨["sundanese", "sund"], [(7040, 64, 1), (7360, 8, 1)], []⟩,
   ⟨["sunuwar", "sunu"],
    [(72640, 34, 1), (72688, 10, 1)],
    [(768, 2, 1), (771, 1, 1), (781, 1, 1), (784, 1, 1), (813, 1, 1), (817, 1, 1)]⟩,
   ⟨["sylotinagri", "sylo"], [(43008, 45, 1)], [(2404, 2, 1), (2534, 10, 1)]⟩,
   ⟨["syriac", "syrc"],
    [(1792, 14, 1), (1807, 60, 1), (1869, 3, 1), (2144, 11, 1)],
    [(771, 2, 1), (775, 2, 1), (778, 1, 1), (803, 3, 1), (813, 2, 1), (816, 2, 1), (1548, 1, 1),
     (1563, 2, 1), (1567, 1, 1), (1600, 1, 1), (1611, 11, 1), (1648, 1, 1), (7672, 2, 2)]⟩,
   ⟨["tagalog", "tglg"], [(5888, 22, 1), (5919, 1, 1)], [(5941, 2, 1)]⟩,
   ⟨["tagbanwa", "tagb"], [(5984, 13, 1), (5998, 3, 1), (6002, 2, 1)], [(5941, 2, 1)]⟩,
   ⟨["taile", "tale"],
    [(6480, 30, 1), (6512, 5, 1)],
    [(768, 2, 1), (775, 2, 1), (780, 1, 1), (4160, 10, 1)]⟩,
   ⟨["taitham", "lana"],
    [(6688, 63, 1), (6752, 29, 1), (6783, 11, 1), (6800, 10, 1), (6816, 14, 1)],
    []⟩,
   ⟨["taiviet", "tavt"], [(43648, 67, 1), (43739, 5, 1)], []⟩,
   ⟨["taiyo", "tayo"], [(124608, 31, 1), (124640, 22, 1), (124670, 2, 1)], []⟩,
   ⟨["takri", "takr"], [(71296, 58, 1), (71360, 10, 1)], [(2404, 2, 1), (43056, 10, 1)]⟩,
   ⟨["tamil", "taml"],
    [(2946, 2, 1), (2949, 6, 1), (2958, 3, 1), (2962, 4, 1), (2969, 2, 1), (2972, 1, 1),
     (2974, 2, 1), (2979, 2, 1), (2984, 3, 1), (2990, 12, 1), (3006, 5, 1), (3014, 3, 1),
     (3018, 4, 1), (3024, 1, 1), (3031, 1, 1), (3046, 21, 1), (73664, 50, 1), (73727, 1, 1)],
    [(2385, 2, 1), (2404, 2, 1), (7386, 1, 1), (43251, 1, 1), (70401, 2, 2), (70459, 2, 1)]⟩,
   ⟨["tangsa", "tnsa"], [(92784, 79, 1), (92864, 10, 1)], []⟩,
   ⟨["tangut", "tang"],
    [(94176, 1, 1), (94208, 6912, 1), (101632, 31, 1), (101760, 115, 1)],
    [(12272, 16, 1), (12783, 1, 1)]⟩,
   ⟨["telugu", "telu"],
    [(3072, 13, 1), (3086, 3, 1), (3090, 23, 1), (3114, 16, 1), (3132, 9, 1), (3142, 3, 1),
     (3146, 4, 1), (3157, 2, 1), (3160, 3, 1), (3164, 2, 1), (3168, 4, 1), (3174, 10, 1),
     (3191, 9, 1)],
    [(2385, 2, 1), (2404, 2, 1), (7381, 2, 1), (7384, 2, 2), (7410, 1, 1)]⟩,
   ⟨["thaana", "thaa"],
    [(1920, 50, 1)],
    [(1548, 1, 1), (1563, 2, 1), (1567, 1, 1), (1632, 10, 1), (65010, 1, 1), (65021, 1, 1)]⟩,
   ⟨["thai"], [(3585, 58, 1), (3648, 28, 1)], [(700, 1, 1), (727, 1, 1), (771, 1, 1), (817, 1, 1)]⟩,
   ⟨["tibetan", "tibt"],
    [(3840, 72, 1), (3913, 36, 1), (3953, 39, 1), (3993, 36, 1), (4030, 15, 1), (4046, 7, 1),
     (4057, 2, 1)],
    [(12296, 4, 1)]⟩,
   ⟨["tifinagh", "tfng"],
    [(11568, 56, 1), (11631, 2, 1), (11647, 1, 1)],
    [(770, 2, 2), (774, 4, 1), (803, 1, 1)]⟩,
   ⟨["tirhuta", "tirh"],
    [(70784, 72, 1), (70864, 10, 1)],
    [(2385, 2, 1), (2404, 2, 1), (7381, 1, 1), (7394, 1, 1), (7410, 1, 1), (43056, 10, 1)]⟩,
   ⟨["todhri", "todr"],
    [(67008, 52, 1)],
    [(769, 1, 1), (772, 1, 1), (775, 1, 1), (785, 2, 2), (862, 1, 1)]⟩,
   ⟨["tolongsiki", "tols"], [(73136, 44, 1), (73184, 10, 1)], []⟩,
   ⟨["toto"], [(123536, 31, 1)], [(700, 1, 1)]⟩,
   ⟨["tulutigalari", "tutg"],
    [(70528, 10, 1), (70539, 1, 1), (70542, 1, 1), (70544, 38, 1), (70583, 10, 1), (70594, 1, 1),
     (70597, 1, 1), (70599, 4, 1), (70604, 10, 1), (70615, 2, 1), (70625, 2, 1)],
    [(3302, 10, 1), (7410, 2, 2), (43056, 6, 1), (43249, 1, 1)]⟩,
   ⟨["ugaritic", "ugar"], [(66432, 30, 1), (66463, 1, 1)], []⟩,
   ⟨["vai", "vaii"], [(42240, 300, 1)], []⟩,
   ⟨["vithkuqi", "vith"],
    [(66928, 11, 1), (66940, 15, 1), (66956, 7, 1), (66964, 2, 1), (66967, 11, 1), (66979, 15, 1),
     (66995, 7, 1), (67003, 2, 1)],
    []⟩,
   ⟨["wancho", "wcho"], [(123584, 58, 1), (123647, 1, 1)], []⟩,
   ⟨["warangciti", "wara"], [(71840, 83, 1), (71935, 1, 1)], []⟩,
   ⟨["yezidi", "yezi"],
    [(69248, 42, 1), (69291, 3, 1), (69296, 2, 1)],
    [(1548, 1, 1), (1563, 1, 1), (1567, 1, 1), (1632, 10, 1)]⟩,
   ⟨["yi", "yiii"],
    [(40960, 1165, 1), (42128, 55, 1)],
    [(12289, 2, 1), (12296, 10, 1), (12308, 8, 1), (12539, 1, 1), (65377, 5, 1)]⟩,
   ⟨["zanabazarsquare", "zanb"], [(72192, 72, 1)], []⟩]

end Runbook.Text
