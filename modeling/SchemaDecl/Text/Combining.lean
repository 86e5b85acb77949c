import SchemaDecl.Text.CharSet

/-! Characters that combine with the one before them. A text is composed when its marks stand in the
order of their classes and no mark could be joined with its base into one character. The tables hold
for letters, digits and marks of the character database, version 14; about other characters they say
nothing. -/

namespace SchemaDecl.Text

/-- Marks of all kinds. -/
def markChars : CharSet where
  changes := [768, 881, 1155, 1163, 1425, 1488, 1552, 1568, 1611, 1632, 1648, 1649, 1750, 1765,
    1767, 1774, 1809, 1810, 1840, 1869, 1958, 1969, 2027, 2036, 2045, 2048, 2070, 2074, 2075, 2084,
    2085, 2088, 2089, 2112, 2137, 2144, 2200, 2208, 2250, 2308, 2362, 2365, 2366, 2384, 2385, 2400,
    2402, 2406, 2433, 2437, 2492, 2493, 2494, 2510, 2519, 2528, 2530, 2534, 2558, 2565, 2620, 2652,
    2672, 2674, 2677, 2693, 2748, 2749, 2750, 2768, 2786, 2790, 2810, 2821, 2876, 2877, 2878, 2911,
    2914, 2918, 2946, 2947, 3006, 3024, 3031, 3046, 3072, 3077, 3132, 3133, 3134, 3160, 3170, 3174,
    3201, 3205, 3260, 3261, 3262, 3293, 3298, 3302, 3328, 3332, 3387, 3389, 3390, 3406, 3415, 3423,
    3426, 3430, 3457, 3461, 3530, 3558, 3570, 3585, 3633, 3634, 3636, 3648, 3655, 3664, 3761, 3762,
    3764, 3773, 3784, 3792, 3864, 3872, 3893, 3904, 3953, 3976, 3981, 4096, 4139, 4159, 4182, 4186,
    4190, 4193, 4194, 4197, 4199, 4206, 4209, 4213, 4226, 4238, 4239, 4240, 4250, 4304, 4957, 4992,
    5906, 5919, 5938, 5952, 5970, 5984, 6002, 6016, 6070, 6103, 6109, 6112, 6277, 6279, 6313, 6314,
    6432, 6470, 6679, 6688, 6741, 6784, 6832, 6917, 6964, 6981, 7019, 7043, 7073, 7086, 7142, 7168,
    7204, 7232, 7376, 7401, 7405, 7406, 7412, 7413, 7415, 7418, 7616, 7681, 11503, 11507, 11647,
    11648, 11744, 11823, 12330, 12348, 12441, 12445, 42607, 42623, 42654, 42656, 42736, 42775,
    43010, 43011, 43014, 43015, 43019, 43020, 43043, 43072, 43136, 43138, 43188, 43216, 43232,
    43250, 43263, 43264, 43302, 43312, 43335, 43396, 43443, 43471, 43493, 43494, 43561, 43584,
    43587, 43588, 43596, 43600, 43643, 43646, 43696, 43697, 43698, 43701, 43703, 43705, 43710,
    43712, 43713, 43714, 43755, 43762, 43765, 43777, 44003, 44016, 64286, 65139, 66045, 66176,
    66272, 66304, 66422, 66432, 68097, 68112, 68152, 68192, 68325, 68352, 68900, 68912, 69291,
    69296, 69446, 69488, 69506, 69552, 69632, 69635, 69688, 69734, 69744, 69745, 69747, 69749,
    69759, 69763, 69808, 69840, 69888, 69891, 69927, 69942, 69957, 69959, 70003, 70006, 70016,
    70019, 70067, 70081, 70089, 70096, 70188, 70272, 70367, 70384, 70400, 70405, 70459, 70461,
    70462, 70480, 70487, 70493, 70498, 70656, 70709, 70727, 70750, 70751, 70832, 70852, 71087,
    71128, 71132, 71168, 71216, 71236, 71339, 71352, 71453, 71472, 71724, 71872, 71984, 71999,
    72000, 72001, 72002, 72016, 72145, 72161, 72164, 72192, 72193, 72203, 72243, 72250, 72251,
    72272, 72273, 72284, 72330, 72349, 72751, 72768, 72850, 72960, 73009, 73030, 73031, 73040,
    73098, 73112, 73459, 73648, 92912, 92928, 92976, 92992, 94031, 94032, 94033, 94099, 94180,
    94208, 113821, 122624, 122880, 123136, 123184, 123191, 123566, 123584, 123628, 123632, 125136,
    125218, 125252, 125259]

/-- Marks that take no place of their own. -/
def nonspacingChars : CharSet where
  changes := [768, 881, 1155, 1163, 1425, 1488, 1552, 1568, 1611, 1632, 1648, 1649, 1750, 1765,
    1767, 1774, 1809, 1810, 1840, 1869, 1958, 1969, 2027, 2036, 2045, 2048, 2070, 2074, 2075, 2084,
    2085, 2088, 2089, 2112, 2137, 2144, 2200, 2208, 2250, 2307, 2362, 2363, 2364, 2365, 2369, 2377,
    2381, 2382, 2385, 2400, 2402, 2406, 2433, 2434, 2492, 2493, 2497, 2503, 2509, 2510, 2530, 2534,
    2558, 2563, 2620, 2622, 2625, 2652, 2672, 2674, 2677, 2691, 2748, 2749, 2753, 2761, 2765, 2768,
    2786, 2790, 2810, 2818, 2876, 2877, 2879, 2880, 2881, 2887, 2893, 2903, 2914, 2918, 2946, 2947,
    3008, 3009, 3021, 3024, 3072, 3073, 3076, 3077, 3132, 3133, 3134, 3137, 3142, 3160, 3170, 3174,
    3201, 3202, 3260, 3261, 3276, 3285, 3298, 3302, 3328, 3330, 3387, 3389, 3393, 3398, 3405, 3406,
    3426, 3430, 3457, 3458, 3530, 3535, 3538, 3544, 3633, 3634, 3636, 3648, 3655, 3664, 3761, 3762,
    3764, 3773, 3784, 3792, 3864, 3872, 3893, 3902, 3953, 3967, 3968, 3976, 3981, 4096, 4141, 4145,
    4146, 4152, 4153, 4155, 4157, 4159, 4184, 4186, 4190, 4193, 4209, 4213, 4226, 4227, 4229, 4231,
    4237, 4238, 4253, 4304, 4957, 4992, 5906, 5909, 5938, 5940, 5970, 5984, 6002, 6016, 6071, 6078,
    6086, 6087, 6089, 6103, 6109, 6112, 6277, 6279, 6313, 6314, 6432, 6435, 6439, 6441, 6450, 6451,
    6457, 6470, 6679, 6681, 6683, 6688, 6742, 6743, 6744, 6753, 6754, 6755, 6757, 6765, 6771, 6784,
    6832, 6916, 6964, 6965, 6966, 6971, 6972, 6973, 6978, 6979, 7019, 7042, 7074, 7078, 7080, 7082,
    7083, 7086, 7142, 7143, 7144, 7146, 7149, 7150, 7151, 7154, 7212, 7220, 7222, 7232, 7376, 7393,
    7394, 7401, 7405, 7406, 7412, 7413, 7416, 7418, 7616, 7681, 11503, 11507, 11647, 11648, 11744,
    11823, 12330, 12348, 12441, 12445, 42607, 42623, 42654, 42656, 42736, 42775, 43010, 43011,
    43014, 43015, 43019, 43020, 43045, 43047, 43052, 43072, 43204, 43216, 43232, 43250, 43263,
    43264, 43302, 43312, 43335, 43346, 43392, 43395, 43443, 43444, 43446, 43450, 43452, 43454,
    43493, 43494, 43561, 43567, 43569, 43571, 43573, 43584, 43587, 43588, 43596, 43597, 43644,
    43645, 43696, 43697, 43698, 43701, 43703, 43705, 43710, 43712, 43713, 43714, 43756, 43758,
    43766, 43777, 44005, 44006, 44008, 44009, 44013, 44016, 64286, 65139, 66045, 66176, 66272,
    66304, 66422, 66432, 68097, 68112, 68152, 68192, 68325, 68352, 68900, 68912, 69291, 69296,
    69446, 69488, 69506, 69552, 69633, 69634, 69688, 69734, 69744, 69745, 69747, 69749, 69759,
    69762, 69811, 69815, 69817, 69840, 69888, 69891, 69927, 69932, 69933, 69942, 70003, 70006,
    70016, 70018, 70070, 70079, 70089, 70094, 70095, 70096, 70191, 70194, 70196, 70197, 70198,
    70272, 70367, 70368, 70371, 70384, 70400, 70402, 70459, 70461, 70464, 70465, 70502, 70656,
    70712, 70720, 70722, 70725, 70726, 70727, 70750, 70751, 70835, 70841, 70842, 70843, 70847,
    70849, 70850, 70852, 71090, 71096, 71100, 71102, 71103, 71128, 71132, 71168, 71219, 71227,
    71229, 71230, 71231, 71236, 71339, 71340, 71341, 71342, 71344, 71350, 71351, 71352, 71453,
    71456, 71458, 71462, 71463, 71472, 71727, 71736, 71737, 71872, 71995, 71997, 71998, 71999,
    72003, 72016, 72148, 72156, 72160, 72161, 72193, 72199, 72201, 72203, 72243, 72249, 72251,
    72272, 72273, 72279, 72281, 72284, 72330, 72343, 72344, 72349, 72752, 72766, 72850, 72873,
    72874, 72881, 72882, 72884, 72885, 72960, 73009, 73030, 73031, 73040, 73104, 73107, 73109,
    73110, 73111, 73112, 73459, 73461, 92912, 92928, 92976, 92992, 94031, 94032, 94095, 94099,
    94180, 94192, 113821, 122624, 122880, 123136, 123184, 123191, 123566, 123584, 123628, 123632,
    125136, 125218, 125252, 125259]

/-- The classes by which marks are ordered, each with the first character that it holds for; class
zero is that of bases. -/
def markOrders : List (Nat × Nat) :=
  [(45, 0), (768, 230), (789, 232), (790, 220), (794, 232), (795, 216), (796, 220), (801, 202),
    (803, 220), (807, 202), (809, 220), (820, 1), (825, 220), (829, 230), (839, 220), (842, 230),
    (845, 220), (848, 230), (851, 220), (855, 230), (856, 232), (857, 220), (859, 230), (860, 233),
    (861, 234), (863, 233), (864, 234), (866, 233), (867, 230), (881, 0), (1155, 230), (1163, 0),
    (1425, 220), (1426, 230), (1430, 220), (1431, 230), (1434, 222), (1435, 220), (1436, 230),
    (1442, 220), (1448, 230), (1450, 220), (1451, 230), (1453, 222), (1454, 228), (1455, 230),
    (1456, 10), (1457, 11), (1458, 12), (1459, 13), (1460, 14), (1461, 15), (1462, 16), (1463, 17),
    (1464, 18), (1465, 19), (1467, 20), (1468, 21), (1469, 22), (1471, 23), (1473, 24), (1474, 25),
    (1476, 230), (1477, 220), (1479, 18), (1488, 0), (1552, 230), (1560, 30), (1561, 31),
    (1562, 32), (1568, 0), (1611, 27), (1612, 28), (1613, 29), (1614, 30), (1615, 31), (1616, 32),
    (1617, 33), (1618, 34), (1619, 230), (1621, 220), (1623, 230), (1628, 220), (1629, 230),
    (1631, 220), (1632, 0), (1648, 35), (1649, 0), (1750, 230), (1763, 220), (1764, 230), (1765, 0),
    (1767, 230), (1770, 220), (1771, 230), (1773, 220), (1774, 0), (1809, 36), (1810, 0),
    (1840, 230), (1841, 220), (1842, 230), (1844, 220), (1845, 230), (1847, 220), (1850, 230),
    (1851, 220), (1853, 230), (1854, 220), (1855, 230), (1858, 220), (1859, 230), (1860, 220),
    (1861, 230), (1862, 220), (1863, 230), (1864, 220), (1865, 230), (1869, 0), (2027, 230),
    (2034, 220), (2035, 230), (2036, 0), (2045, 220), (2048, 0), (2070, 230), (2074, 0),
    (2075, 230), (2084, 0), (2085, 230), (2088, 0), (2089, 230), (2112, 0), (2137, 220), (2144, 0),
    (2200, 230), (2201, 220), (2204, 230), (2208, 0), (2250, 230), (2255, 220), (2260, 230),
    (2275, 220), (2276, 230), (2278, 220), (2279, 230), (2281, 220), (2282, 230), (2285, 220),
    (2288, 27), (2289, 28), (2290, 29), (2291, 230), (2294, 220), (2295, 230), (2297, 220),
    (2299, 230), (2304, 0), (2364, 7), (2365, 0), (2381, 9), (2382, 0), (2385, 230), (2386, 220),
    (2387, 230), (2389, 0), (2492, 7), (2493, 0), (2509, 9), (2510, 0), (2558, 230), (2561, 0),
    (2620, 7), (2622, 0), (2637, 9), (2641, 0), (2748, 7), (2749, 0), (2765, 9), (2768, 0),
    (2876, 7), (2877, 0), (2893, 9), (2901, 0), (3021, 9), (3024, 0), (3132, 7), (3133, 0),
    (3149, 9), (3157, 84), (3158, 91), (3160, 0), (3260, 7), (3261, 0), (3277, 9), (3285, 0),
    (3387, 9), (3389, 0), (3405, 9), (3406, 0), (3530, 9), (3535, 0), (3640, 103), (3642, 9),
    (3648, 0), (3656, 107), (3660, 0), (3768, 118), (3770, 9), (3771, 0), (3784, 122), (3788, 0),
    (3864, 220), (3872, 0), (3893, 220), (3897, 216), (3902, 0), (3953, 129), (3954, 130),
    (3956, 132), (3962, 130), (3966, 0), (3968, 130), (3970, 230), (3972, 9), (3974, 230),
    (3976, 0), (4038, 220), (4096, 0), (4151, 7), (4152, 0), (4153, 9), (4155, 0), (4237, 220),
    (4238, 0), (4957, 230), (4992, 0), (5908, 9), (5919, 0), (5940, 9), (5952, 0), (6098, 9),
    (6099, 0), (6109, 230), (6112, 0), (6313, 228), (6314, 0), (6457, 222), (6458, 230),
    (6459, 220), (6470, 0), (6679, 230), (6680, 220), (6681, 0), (6752, 9), (6753, 0), (6773, 230),
    (6783, 220), (6784, 0), (6832, 230), (6837, 220), (6843, 230), (6845, 220), (6849, 230),
    (6851, 220), (6853, 230), (6858, 220), (6859, 230), (6912, 0), (6964, 7), (6965, 0), (6980, 9),
    (6981, 0), (7019, 230), (7020, 220), (7021, 230), (7040, 0), (7082, 9), (7084, 0), (7142, 7),
    (7143, 0), (7154, 9), (7168, 0), (7223, 7), (7232, 0), (7376, 230), (7380, 1), (7381, 220),
    (7386, 230), (7388, 220), (7392, 230), (7393, 0), (7394, 1), (7401, 0), (7405, 220), (7406, 0),
    (7412, 230), (7413, 0), (7416, 230), (7418, 0), (7616, 230), (7618, 220), (7619, 230),
    (7626, 220), (7627, 230), (7629, 234), (7630, 214), (7631, 220), (7632, 202), (7633, 230),
    (7670, 232), (7671, 228), (7673, 220), (7674, 218), (7675, 230), (7676, 233), (7677, 220),
    (7678, 230), (7679, 220), (7681, 0), (11503, 230), (11507, 0), (11647, 9), (11648, 0),
    (11744, 230), (11823, 0), (12330, 218), (12331, 228), (12332, 232), (12333, 222), (12348, 0),
    (12441, 8), (12445, 0), (42607, 230), (42623, 0), (42654, 230), (42656, 0), (42736, 230),
    (42775, 0), (43014, 9), (43015, 0), (43052, 9), (43072, 0), (43204, 9), (43205, 0),
    (43232, 230), (43250, 0), (43307, 220), (43312, 0), (43347, 9), (43392, 0), (43443, 7),
    (43444, 0), (43456, 9), (43471, 0), (43696, 230), (43697, 0), (43698, 230), (43700, 220),
    (43701, 0), (43703, 230), (43705, 0), (43710, 230), (43712, 0), (43713, 230), (43714, 0),
    (43766, 9), (43777, 0), (44013, 9), (44016, 0), (64286, 26), (65056, 230), (65063, 220),
    (65070, 230), (65139, 0), (66045, 220), (66176, 0), (66272, 220), (66304, 0), (66422, 230),
    (66432, 0), (68109, 220), (68110, 0), (68111, 230), (68112, 0), (68152, 230), (68153, 1),
    (68154, 220), (68159, 9), (68192, 0), (68325, 230), (68326, 220), (68352, 0), (68900, 230),
    (68912, 0), (69291, 230), (69296, 0), (69446, 220), (69448, 230), (69451, 220), (69452, 230),
    (69453, 220), (69488, 0), (69506, 230), (69507, 220), (69508, 230), (69509, 220), (69552, 0),
    (69702, 9), (69734, 0), (69744, 9), (69745, 0), (69759, 9), (69760, 0), (69817, 9), (69818, 7),
    (69826, 0), (69888, 230), (69891, 0), (69939, 9), (69942, 0), (70003, 7), (70006, 0),
    (70080, 9), (70081, 0), (70090, 7), (70091, 0), (70197, 9), (70198, 7), (70199, 0), (70377, 7),
    (70378, 9), (70384, 0), (70459, 7), (70461, 0), (70477, 9), (70480, 0), (70502, 230),
    (70656, 0), (70722, 9), (70723, 0), (70726, 7), (70727, 0), (70750, 230), (70751, 0),
    (70850, 9), (70851, 7), (70852, 0), (71103, 9), (71104, 7), (71128, 0), (71231, 9), (71232, 0),
    (71350, 9), (71351, 7), (71352, 0), (71467, 9), (71472, 0), (71737, 9), (71738, 7), (71872, 0),
    (71997, 9), (71999, 0), (72003, 7), (72016, 0), (72160, 9), (72161, 0), (72244, 9), (72245, 0),
    (72263, 9), (72272, 0), (72345, 9), (72349, 0), (72767, 9), (72768, 0), (73026, 7), (73027, 0),
    (73028, 9), (73030, 0), (73111, 9), (73112, 0), (92912, 1), (92928, 0), (92976, 230),
    (92992, 0), (94192, 6), (94208, 0), (113822, 1), (118528, 0), (122880, 230), (123136, 0),
    (123184, 230), (123191, 0), (123566, 230), (123584, 0), (123628, 230), (123632, 0),
    (125136, 220), (125218, 0), (125252, 230), (125258, 7), (125259, 0)]

/-- Marks, each with the bases that it forms one character with, and that character. -/
def compositions : List (Nat × List (Nat × Nat)) :=
  [(768, [(97, 224), (101, 232), (105, 236), (110, 505), (111, 242), (117, 249), (119, 7809),
      (121, 7923), (226, 7847), (234, 7873), (244, 7891), (252, 476), (259, 7857), (275, 7701),
      (333, 7761), (417, 7901), (432, 7915), (945, 8048), (949, 8050), (951, 8052), (953, 8054),
      (959, 8056), (965, 8058), (969, 8060), (970, 8146), (971, 8162), (1077, 1104), (1080, 1117),
      (7936, 7938), (7937, 7939), (7952, 7954), (7953, 7955), (7968, 7970), (7969, 7971),
      (7984, 7986), (7985, 7987), (8000, 8002), (8001, 8003), (8016, 8018), (8017, 8019),
      (8032, 8034), (8033, 8035)]),
    (769, [(97, 225), (99, 263), (101, 233), (103, 501), (105, 237), (107, 7729), (108, 314),
      (109, 7743), (110, 324), (111, 243), (112, 7765), (114, 341), (115, 347), (117, 250),
      (119, 7811), (121, 253), (122, 378), (226, 7845), (229, 507), (230, 509), (231, 7689),
      (234, 7871), (239, 7727), (244, 7889), (245, 7757), (248, 511), (252, 472), (259, 7855),
      (275, 7703), (333, 7763), (361, 7801), (417, 7899), (432, 7913), (945, 940), (949, 941),
      (951, 942), (953, 943), (959, 972), (965, 973), (969, 974), (970, 912), (971, 944),
      (1075, 1107), (1082, 1116), (7936, 7940), (7937, 7941), (7952, 7956), (7953, 7957),
      (7968, 7972), (7969, 7973), (7984, 7988), (7985, 7989), (8000, 8004), (8001, 8005),
      (8016, 8020), (8017, 8021), (8032, 8036), (8033, 8037)]),
    (770, [(97, 226), (99, 265), (101, 234), (103, 285), (104, 293), (105, 238), (106, 309),
      (111, 244), (115, 349), (117, 251), (119, 373), (121, 375), (122, 7825), (7841, 7853),
      (7865, 7879), (7885, 7897)]),
    (771, [(97, 227), (101, 7869), (105, 297), (110, 241), (111, 245), (117, 361), (118, 7805),
      (121, 7929), (226, 7851), (234, 7877), (244, 7895), (259, 7861), (417, 7905), (432, 7919)]),
    (772, [(97, 257), (101, 275), (103, 7713), (105, 299), (111, 333), (117, 363), (121, 563),
      (228, 479), (230, 483), (245, 557), (246, 555), (252, 470), (491, 493), (551, 481),
      (559, 561), (945, 8113), (953, 8145), (965, 8161), (1080, 1251), (1091, 1263), (7735, 7737),
      (7771, 7773)]),
    (774, [(97, 259), (101, 277), (103, 287), (105, 301), (111, 335), (117, 365), (553, 7709),
      (945, 8112), (953, 8144), (965, 8160), (1072, 1233), (1077, 1239), (1078, 1218), (1080, 1081),
      (1091, 1118), (7841, 7863)]),
    (775, [(97, 551), (98, 7683), (99, 267), (100, 7691), (101, 279), (102, 7711), (103, 289),
      (104, 7715), (109, 7745), (110, 7749), (111, 559), (112, 7767), (114, 7769), (115, 7777),
      (116, 7787), (119, 7815), (120, 7819), (121, 7823), (122, 380), (347, 7781), (353, 7783),
      (7779, 7785)]),
    (776, [(97, 228), (101, 235), (104, 7719), (105, 239), (111, 246), (116, 7831), (117, 252),
      (119, 7813), (120, 7821), (121, 255), (245, 7759), (363, 7803), (953, 970), (965, 971),
      (1072, 1235), (1077, 1105), (1078, 1245), (1079, 1247), (1080, 1253), (1086, 1255),
      (1091, 1265), (1095, 1269), (1099, 1273), (1101, 1261), (1110, 1111), (1241, 1243),
      (1257, 1259)]),
    (777, [(97, 7843), (101, 7867), (105, 7881), (111, 7887), (117, 7911), (121, 7927), (226, 7849),
      (234, 7875), (244, 7893), (259, 7859), (417, 7903), (432, 7917)]),
    (778, [(97, 229), (117, 367), (119, 7832), (121, 7833)]),
    (779, [(111, 337), (117, 369), (1091, 1267)]),
    (780, [(97, 462), (99, 269), (100, 271), (101, 283), (103, 487), (104, 543), (105, 464),
      (106, 496), (107, 489), (108, 318), (110, 328), (111, 466), (114, 345), (115, 353),
      (116, 357), (117, 468), (122, 382), (252, 474), (658, 495)]),
    (783, [(97, 513), (101, 517), (105, 521), (111, 525), (114, 529), (117, 533), (1141, 1143)]),
    (785, [(97, 515), (101, 519), (105, 523), (111, 527), (114, 531), (117, 535)]),
    (787, [(945, 7936), (949, 7952), (951, 7968), (953, 7984), (959, 8000), (961, 8164),
      (965, 8016), (969, 8032)]),
    (788, [(945, 7937), (949, 7953), (951, 7969), (953, 7985), (959, 8001), (961, 8165),
      (965, 8017), (969, 8033)]),
    (795, [(111, 417), (117, 432)]),
    (803, [(97, 7841), (98, 7685), (100, 7693), (101, 7865), (104, 7717), (105, 7883), (107, 7731),
      (108, 7735), (109, 7747), (110, 7751), (111, 7885), (114, 7771), (115, 7779), (116, 7789),
      (117, 7909), (118, 7807), (119, 7817), (121, 7925), (122, 7827), (417, 7907), (432, 7921)]),
    (804, [(117, 7795)]),
    (805, [(97, 7681)]),
    (806, [(115, 537), (116, 539)]),
    (807, [(99, 231), (100, 7697), (101, 553), (103, 291), (104, 7721), (107, 311), (108, 316),
      (110, 326), (114, 343), (115, 351), (116, 355)]),
    (808, [(97, 261), (101, 281), (105, 303), (111, 491), (117, 371)]),
    (813, [(100, 7699), (101, 7705), (108, 7741), (110, 7755), (116, 7793), (117, 7799)]),
    (814, [(104, 7723)]),
    (816, [(101, 7707), (105, 7725), (117, 7797)]),
    (817, [(98, 7687), (100, 7695), (104, 7830), (107, 7733), (108, 7739), (110, 7753), (114, 7775),
      (116, 7791), (122, 7829)]),
    (834, [(945, 8118), (951, 8134), (953, 8150), (965, 8166), (969, 8182), (970, 8151),
      (971, 8167), (7936, 7942), (7937, 7943), (7968, 7974), (7969, 7975), (7984, 7990),
      (7985, 7991), (8016, 8022), (8017, 8023), (8032, 8038), (8033, 8039)]),
    (1619, [(1575, 1570)]),
    (1620, [(1575, 1571), (1608, 1572), (1610, 1574), (1729, 1730), (1746, 1747), (1749, 1728)]),
    (1621, [(1575, 1573)]),
    (2364, [(2344, 2345), (2352, 2353), (2355, 2356)]),
    (2494, [(2503, 2507)]),
    (2519, [(2503, 2508)]),
    (2878, [(2887, 2891)]),
    (2902, [(2887, 2888)]),
    (2903, [(2887, 2892)]),
    (3006, [(3014, 3018), (3015, 3019)]),
    (3031, [(2962, 2964), (3014, 3020)]),
    (3158, [(3142, 3144)]),
    (3266, [(3270, 3274)]),
    (3285, [(3263, 3264), (3270, 3271), (3274, 3275)]),
    (3286, [(3270, 3272)]),
    (3390, [(3398, 3402), (3399, 3403)]),
    (3415, [(3398, 3404)]),
    (3530, [(3545, 3546), (3548, 3549)]),
    (3535, [(3545, 3548)]),
    (3551, [(3545, 3550)]),
    (4142, [(4133, 4134)]),
    (6965, [(6917, 6918), (6919, 6920), (6921, 6922), (6923, 6924), (6925, 6926), (6929, 6930),
      (6970, 6971), (6972, 6973), (6974, 6976), (6975, 6977), (6978, 6979)]),
    (12441, [(12358, 12436), (12363, 12364), (12365, 12366), (12367, 12368), (12369, 12370),
      (12371, 12372), (12373, 12374), (12375, 12376), (12377, 12378), (12379, 12380),
      (12381, 12382), (12383, 12384), (12385, 12386), (12388, 12389), (12390, 12391),
      (12392, 12393), (12399, 12400), (12402, 12403), (12405, 12406), (12408, 12409),
      (12411, 12412), (12445, 12446), (12454, 12532), (12459, 12460), (12461, 12462),
      (12463, 12464), (12465, 12466), (12467, 12468), (12469, 12470), (12471, 12472),
      (12473, 12474), (12475, 12476), (12477, 12478), (12479, 12480), (12481, 12482),
      (12484, 12485), (12486, 12487), (12488, 12489), (12495, 12496), (12498, 12499),
      (12501, 12502), (12504, 12505), (12507, 12508), (12527, 12535), (12528, 12536),
      (12529, 12537), (12530, 12538), (12541, 12542)]),
    (12442, [(12399, 12401), (12402, 12404), (12405, 12407), (12408, 12410), (12411, 12413),
      (12495, 12497), (12498, 12500), (12501, 12503), (12504, 12506), (12507, 12509)]),
    (69818, [(69785, 69786), (69787, 69788), (69797, 69803)]),
    (69927, [(69937, 69934), (69938, 69935)]),
    (70462, [(70471, 70475)]),
    (70487, [(70471, 70476)]),
    (70832, [(70841, 70844)]),
    (70842, [(70841, 70843)]),
    (70845, [(70841, 70846)]),
    (71087, [(71096, 71098), (71097, 71099)]),
    (71984, [(71989, 71992)])]

def isMark (c : Char) : Bool :=
  markChars.contains c

def isNonspacing (c : Char) : Bool :=
  nonspacingChars.contains c

/-- The class of a character among marks. -/
def markOrder (c : Char) : Nat :=
  (markOrders.foldl (fun k e => if e.1 ≤ c.toNat then e.2 else k) 0)

/-- The class of the marks that take away the vowel of the letter before them. -/
def viramaOrder : Nat := 9

def composes (base mark : Char) : Bool :=
  match compositions.lookup mark.toNat with
  | some bases => (bases.lookup base.toNat).isSome
  | none => false

/-- The base and the mark that a character is formed of. -/
def partsOf? (c : Char) : Option (Char × Char) :=
  compositions.findSome? fun (mark, bases) =>
    (bases.find? fun e => e.2 == c.toNat).map fun e => (Char.ofNat e.1, Char.ofNat mark)

/-- Whether a mark could be joined with a base, or with what is left of it without marks of higher
classes; at most `fuel` of them are taken off. -/
def joins (mark : Char) : Nat → Char → Bool
  | 0, base => composes base mark
  | fuel + 1, base =>
    composes base mark ||
      match partsOf? base with
      | some (b, m) => markOrder mark < markOrder m && joins mark fuel b
      | none => false

/-- Whether a text is composed from some point on: `base` is the last base and `last` the class of the
character before, if it is not the base itself. -/
def isComposedFrom (base : Option Char) (last : Option Nat) : List Char → Bool
  | [] => true
  | c :: s =>
    let k := markOrder c
    let ordered := k == 0 || (last.getD 0) ≤ k
    let open_ := match last with
      | none => true
      | some l => l != 0 && l < k
    let joined := match base with
      | some b => open_ && (if k == 0 then composes b c else joins c 3 b)
      | none => false
    ordered && !joined &&
      (if k == 0 then isComposedFrom (some c) none s else isComposedFrom base (some k) s)

/-- Whether a text is in the composed normal form. -/
def isComposed (s : List Char) : Bool :=
  isComposedFrom none none s

example : isComposed "\u00e9x".toList = true ∧ isComposed "e\u0301x".toList = false := by
  decide +kernel

end SchemaDecl.Text
