/-! What characters of identifiers are made of, in the character database, version 14: which of them are
written for one other or for several, be it in a form of their own, and which a base and a mark form beside
those that small letters do. The tables hold for letters, digits and marks. -/

namespace SchemaDecl.Text

/-- Marks, each with the bases that are no small letters and that it forms one character with, and that
character. -/
def furtherCompositions : List (Nat × List (Nat × Nat)) :=
  [(768, [(65, 192), (69, 200), (73, 204), (78, 504), (79, 210), (85, 217), (87, 7808), (89, 7922),
      (194, 7846), (202, 7872), (212, 7890), (220, 475), (258, 7856), (274, 7700), (332, 7760),
      (416, 7900), (431, 7914), (913, 8122), (917, 8136), (919, 8138), (921, 8154), (927, 8184),
      (933, 8170), (937, 8186), (1045, 1024), (1048, 1037), (7944, 7946), (7945, 7947),
      (7960, 7962), (7961, 7963), (7976, 7978), (7977, 7979), (7992, 7994), (7993, 7995),
      (8008, 8010), (8009, 8011), (8025, 8027), (8040, 8042), (8041, 8043)]),
    (769, [(65, 193), (67, 262), (69, 201), (71, 500), (73, 205), (75, 7728), (76, 313), (77, 7742),
      (78, 323), (79, 211), (80, 7764), (82, 340), (83, 346), (85, 218), (87, 7810), (89, 221),
      (90, 377), (194, 7844), (197, 506), (198, 508), (199, 7688), (202, 7870), (207, 7726),
      (212, 7888), (213, 7756), (216, 510), (220, 471), (258, 7854), (274, 7702), (332, 7762),
      (360, 7800), (416, 7898), (431, 7912), (913, 902), (917, 904), (919, 905), (921, 906),
      (927, 908), (933, 910), (937, 911), (978, 979), (1043, 1027), (1050, 1036), (7944, 7948),
      (7945, 7949), (7960, 7964), (7961, 7965), (7976, 7980), (7977, 7981), (7992, 7996),
      (7993, 7997), (8008, 8012), (8009, 8013), (8025, 8029), (8040, 8044), (8041, 8045)]),
    (770, [(65, 194), (67, 264), (69, 202), (71, 284), (72, 292), (73, 206), (74, 308), (79, 212),
      (83, 348), (85, 219), (87, 372), (89, 374), (90, 7824), (7840, 7852), (7864, 7878),
      (7884, 7896)]),
    (771, [(65, 195), (69, 7868), (73, 296), (78, 209), (79, 213), (85, 360), (86, 7804),
      (89, 7928), (194, 7850), (202, 7876), (212, 7894), (258, 7860), (416, 7904), (431, 7918)]),
    (772, [(65, 256), (69, 274), (71, 7712), (73, 298), (79, 332), (85, 362), (89, 562), (196, 478),
      (198, 482), (213, 556), (214, 554), (220, 469), (490, 492), (550, 480), (558, 560),
      (913, 8121), (921, 8153), (933, 8169), (1048, 1250), (1059, 1262), (7734, 7736),
      (7770, 7772)]),
    (774, [(65, 258), (69, 276), (71, 286), (73, 300), (79, 334), (85, 364), (552, 7708),
      (913, 8120), (921, 8152), (933, 8168), (1040, 1232), (1045, 1238), (1046, 1217), (1048, 1049),
      (1059, 1038), (7840, 7862)]),
    (775, [(65, 550), (66, 7682), (67, 266), (68, 7690), (69, 278), (70, 7710), (71, 288),
      (72, 7714), (73, 304), (77, 7744), (78, 7748), (79, 558), (80, 7766), (82, 7768), (83, 7776),
      (84, 7786), (87, 7814), (88, 7818), (89, 7822), (90, 379), (346, 7780), (352, 7782),
      (383, 7835), (7778, 7784)]),
    (776, [(65, 196), (69, 203), (72, 7718), (73, 207), (79, 214), (85, 220), (87, 7812),
      (88, 7820), (89, 376), (213, 7758), (362, 7802), (921, 938), (933, 939), (978, 980),
      (1030, 1031), (1040, 1234), (1045, 1025), (1046, 1244), (1047, 1246), (1048, 1252),
      (1054, 1254), (1059, 1264), (1063, 1268), (1067, 1272), (1069, 1260), (1240, 1242),
      (1256, 1258)]),
    (777, [(65, 7842), (69, 7866), (73, 7880), (79, 7886), (85, 7910), (89, 7926), (194, 7848),
      (202, 7874), (212, 7892), (258, 7858), (416, 7902), (431, 7916)]),
    (778, [(65, 197), (85, 366)]),
    (779, [(79, 336), (85, 368), (1059, 1266)]),
    (780, [(65, 461), (67, 268), (68, 270), (69, 282), (71, 486), (72, 542), (73, 463), (75, 488),
      (76, 317), (78, 327), (79, 465), (82, 344), (83, 352), (84, 356), (85, 467), (90, 381),
      (220, 473), (439, 494)]),
    (783, [(65, 512), (69, 516), (73, 520), (79, 524), (82, 528), (85, 532), (1140, 1142)]),
    (785, [(65, 514), (69, 518), (73, 522), (79, 526), (82, 530), (85, 534)]),
    (787, [(913, 7944), (917, 7960), (919, 7976), (921, 7992), (927, 8008), (937, 8040)]),
    (788, [(913, 7945), (917, 7961), (919, 7977), (921, 7993), (927, 8009), (929, 8172),
      (933, 8025), (937, 8041)]),
    (795, [(79, 416), (85, 431)]),
    (803, [(65, 7840), (66, 7684), (68, 7692), (69, 7864), (72, 7716), (73, 7882), (75, 7730),
      (76, 7734), (77, 7746), (78, 7750), (79, 7884), (82, 7770), (83, 7778), (84, 7788),
      (85, 7908), (86, 7806), (87, 7816), (89, 7924), (90, 7826), (416, 7906), (431, 7920)]),
    (804, [(85, 7794)]),
    (805, [(65, 7680)]),
    (806, [(83, 536), (84, 538)]),
    (807, [(67, 199), (68, 7696), (69, 552), (71, 290), (72, 7720), (75, 310), (76, 315), (78, 325),
      (82, 342), (83, 350), (84, 354)]),
    (808, [(65, 260), (69, 280), (73, 302), (79, 490), (85, 370)]),
    (813, [(68, 7698), (69, 7704), (76, 7740), (78, 7754), (84, 7792), (85, 7798)]),
    (814, [(72, 7722)]),
    (816, [(69, 7706), (73, 7724), (85, 7796)]),
    (817, [(66, 7686), (68, 7694), (75, 7732), (76, 7738), (78, 7752), (82, 7774), (84, 7790),
      (90, 7828)]),
    (834, [(7944, 7950), (7945, 7951), (7976, 7982), (7977, 7983), (7992, 7998), (7993, 7999),
      (8025, 8031), (8040, 8046), (8041, 8047)]),
    (837, [(913, 8124), (919, 8140), (937, 8188), (940, 8116), (942, 8132), (945, 8115),
      (951, 8131), (969, 8179), (974, 8180), (7936, 8064), (7937, 8065), (7938, 8066), (7939, 8067),
      (7940, 8068), (7941, 8069), (7942, 8070), (7943, 8071), (7944, 8072), (7945, 8073),
      (7946, 8074), (7947, 8075), (7948, 8076), (7949, 8077), (7950, 8078), (7951, 8079),
      (7968, 8080), (7969, 8081), (7970, 8082), (7971, 8083), (7972, 8084), (7973, 8085),
      (7974, 8086), (7975, 8087), (7976, 8088), (7977, 8089), (7978, 8090), (7979, 8091),
      (7980, 8092), (7981, 8093), (7982, 8094), (7983, 8095), (8032, 8096), (8033, 8097),
      (8034, 8098), (8035, 8099), (8036, 8100), (8037, 8101), (8038, 8102), (8039, 8103),
      (8040, 8104), (8041, 8105), (8042, 8106), (8043, 8107), (8044, 8108), (8045, 8109),
      (8046, 8110), (8047, 8111), (8048, 8114), (8052, 8130), (8060, 8178), (8118, 8119),
      (8134, 8135), (8182, 8183)])]

/-- Runs of characters that are written for one other each: the first of a run, how many they are, what
the first is written for, and by how much that grows from one to the next. -/
def singleForms : List (Nat × Nat × Nat × Nat) :=
  [(170, 1, 97, 0), (181, 1, 956, 0), (186, 1, 111, 0), (383, 1, 115, 0), (688, 1, 104, 0),
    (689, 1, 614, 0), (690, 1, 106, 0), (691, 1, 114, 0), (692, 1, 633, 0), (693, 1, 635, 0),
    (694, 1, 641, 0), (695, 1, 119, 0), (696, 1, 121, 0), (736, 1, 611, 0), (737, 1, 108, 0),
    (738, 1, 115, 0), (739, 1, 120, 0), (740, 1, 661, 0), (832, 2, 768, 1), (835, 1, 787, 0),
    (884, 1, 697, 0), (903, 1, 183, 0), (976, 1, 946, 0), (977, 1, 952, 0), (978, 1, 933, 0),
    (981, 1, 966, 0), (982, 1, 960, 0), (1008, 1, 954, 0), (1009, 2, 961, 1), (1012, 1, 920, 0),
    (1013, 1, 949, 0), (1017, 1, 931, 0), (4348, 1, 4316, 0), (7468, 1, 65, 0), (7469, 1, 198, 0),
    (7470, 1, 66, 0), (7472, 2, 68, 1), (7474, 1, 398, 0), (7475, 8, 71, 1), (7484, 1, 79, 0),
    (7485, 1, 546, 0), (7486, 1, 80, 0), (7487, 1, 82, 0), (7488, 2, 84, 1), (7490, 1, 87, 0),
    (7491, 1, 97, 0), (7492, 2, 592, 1), (7494, 1, 7426, 0), (7495, 1, 98, 0), (7496, 2, 100, 1),
    (7498, 1, 601, 0), (7499, 2, 603, 1), (7501, 1, 103, 0), (7503, 1, 107, 0), (7504, 1, 109, 0),
    (7505, 1, 331, 0), (7506, 1, 111, 0), (7507, 1, 596, 0), (7508, 2, 7446, 1), (7510, 1, 112, 0),
    (7511, 2, 116, 1), (7513, 1, 7453, 0), (7514, 1, 623, 0), (7515, 1, 118, 0), (7516, 1, 7461, 0),
    (7517, 3, 946, 1), (7520, 2, 966, 1), (7522, 1, 105, 0), (7523, 1, 114, 0), (7524, 2, 117, 1),
    (7526, 2, 946, 1), (7528, 1, 961, 0), (7529, 2, 966, 1), (7544, 1, 1085, 0), (7579, 1, 594, 0),
    (7580, 1, 99, 0), (7581, 1, 597, 0), (7582, 1, 240, 0), (7583, 1, 604, 0), (7584, 1, 102, 0),
    (7585, 1, 607, 0), (7586, 1, 609, 0), (7587, 1, 613, 0), (7588, 3, 616, 1), (7591, 1, 7547, 0),
    (7592, 1, 669, 0), (7593, 1, 621, 0), (7594, 1, 7557, 0), (7595, 1, 671, 0), (7596, 1, 625, 0),
    (7597, 1, 624, 0), (7598, 4, 626, 1), (7602, 1, 632, 0), (7603, 2, 642, 1), (7605, 1, 427, 0),
    (7606, 2, 649, 1), (7608, 1, 7452, 0), (7609, 2, 651, 1), (7611, 1, 122, 0), (7612, 3, 656, 1),
    (7615, 1, 952, 0), (8126, 1, 953, 0), (8305, 1, 105, 0), (8319, 1, 110, 0), (8336, 1, 97, 0),
    (8337, 1, 101, 0), (8338, 1, 111, 0), (8339, 1, 120, 0), (8340, 1, 601, 0), (8341, 1, 104, 0),
    (8342, 4, 107, 1), (8346, 1, 112, 0), (8347, 2, 115, 1), (8450, 1, 67, 0), (8455, 1, 400, 0),
    (8458, 1, 103, 0), (8459, 3, 72, 0), (8462, 1, 104, 0), (8463, 1, 295, 0), (8464, 2, 73, 0),
    (8466, 1, 76, 0), (8467, 1, 108, 0), (8469, 1, 78, 0), (8473, 3, 80, 1), (8476, 2, 82, 0),
    (8484, 1, 90, 0), (8486, 1, 937, 0), (8488, 1, 90, 0), (8490, 1, 75, 0), (8492, 2, 66, 1),
    (8495, 1, 101, 0), (8496, 2, 69, 1), (8499, 1, 77, 0), (8500, 1, 111, 0), (8501, 4, 1488, 1),
    (8505, 1, 105, 0), (8508, 1, 960, 0), (8509, 1, 947, 0), (8510, 1, 915, 0), (8511, 1, 928, 0),
    (8517, 1, 68, 0), (8518, 2, 100, 1), (8520, 2, 105, 1), (8544, 1, 73, 0), (8548, 1, 86, 0),
    (8553, 1, 88, 0), (8556, 1, 76, 0), (8557, 2, 67, 1), (8559, 1, 77, 0), (8560, 1, 105, 0),
    (8564, 1, 118, 0), (8569, 1, 120, 0), (8572, 1, 108, 0), (8573, 2, 99, 1), (8575, 1, 109, 0),
    (11388, 1, 106, 0), (11389, 1, 86, 0), (11631, 1, 11617, 0), (12344, 1, 21313, 0),
    (12345, 2, 21316, 1), (12593, 2, 4352, 1), (12595, 1, 4522, 0), (12596, 1, 4354, 0),
    (12597, 2, 4524, 1), (12599, 3, 4355, 1), (12602, 6, 4528, 1), (12608, 1, 4378, 0),
    (12609, 3, 4358, 1), (12612, 1, 4385, 0), (12613, 10, 4361, 1), (12623, 21, 4449, 1),
    (12644, 1, 4448, 0), (12645, 2, 4372, 1), (12647, 2, 4551, 1), (12649, 1, 4556, 0),
    (12650, 1, 4558, 0), (12651, 1, 4563, 0), (12652, 1, 4567, 0), (12653, 1, 4569, 0),
    (12654, 1, 4380, 0), (12655, 1, 4573, 0), (12656, 1, 4575, 0), (12657, 2, 4381, 1),
    (12659, 1, 4384, 0), (12660, 2, 4386, 1), (12662, 1, 4391, 0), (12663, 1, 4393, 0),
    (12664, 5, 4395, 1), (12669, 1, 4402, 0), (12670, 1, 4406, 0), (12671, 1, 4416, 0),
    (12672, 1, 4423, 0), (12673, 1, 4428, 0), (12674, 2, 4593, 1), (12676, 3, 4439, 1),
    (12679, 2, 4484, 1), (12681, 1, 4488, 0), (12682, 2, 4497, 1), (12684, 1, 4500, 0),
    (12685, 1, 4510, 0), (12686, 1, 4513, 0), (42652, 1, 1098, 0), (42653, 1, 1100, 0),
    (42864, 1, 42863, 0), (42994, 1, 67, 0), (42995, 1, 70, 0), (42996, 1, 81, 0),
    (43000, 1, 294, 0), (43001, 1, 339, 0), (43868, 1, 42791, 0), (43869, 1, 43831, 0),
    (43870, 1, 619, 0), (43871, 1, 43858, 0), (43881, 1, 653, 0), (64288, 1, 1506, 0),
    (64289, 1, 1488, 0), (64290, 2, 1491, 1), (64292, 3, 1499, 1), (64295, 1, 1512, 0),
    (64296, 1, 1514, 0), (64336, 2, 1649, 0), (64338, 4, 1659, 0), (64342, 4, 1662, 0),
    (64346, 4, 1664, 0), (64350, 4, 1658, 0), (64354, 4, 1663, 0), (64358, 4, 1657, 0),
    (64362, 4, 1700, 0), (64366, 4, 1702, 0), (64370, 4, 1668, 0), (64374, 4, 1667, 0),
    (64378, 4, 1670, 0), (64382, 4, 1671, 0), (64386, 2, 1677, 0), (64388, 2, 1676, 0),
    (64390, 2, 1678, 0), (64392, 2, 1672, 0), (64394, 2, 1688, 0), (64396, 2, 1681, 0),
    (64398, 4, 1705, 0), (64402, 4, 1711, 0), (64406, 4, 1715, 0), (64410, 4, 1713, 0),
    (64414, 2, 1722, 0), (64416, 4, 1723, 0), (64422, 4, 1729, 0), (64426, 4, 1726, 0),
    (64430, 2, 1746, 0), (64467, 4, 1709, 0), (64471, 2, 1735, 0), (64473, 2, 1734, 0),
    (64475, 2, 1736, 0), (64478, 2, 1739, 0), (64480, 2, 1733, 0), (64482, 2, 1737, 0),
    (64484, 4, 1744, 0), (64488, 2, 1609, 0), (64508, 4, 1740, 0), (65075, 2, 95, 0),
    (65101, 3, 95, 0), (65152, 1, 1569, 0), (65165, 2, 1575, 0), (65167, 4, 1576, 0),
    (65171, 2, 1577, 0), (65173, 4, 1578, 0), (65177, 4, 1579, 0), (65181, 4, 1580, 0),
    (65185, 4, 1581, 0), (65189, 4, 1582, 0), (65193, 2, 1583, 0), (65195, 2, 1584, 0),
    (65197, 2, 1585, 0), (65199, 2, 1586, 0), (65201, 4, 1587, 0), (65205, 4, 1588, 0),
    (65209, 4, 1589, 0), (65213, 4, 1590, 0), (65217, 4, 1591, 0), (65221, 4, 1592, 0),
    (65225, 4, 1593, 0), (65229, 4, 1594, 0), (65233, 4, 1601, 0), (65237, 4, 1602, 0),
    (65241, 4, 1603, 0), (65245, 4, 1604, 0), (65249, 4, 1605, 0), (65253, 4, 1606, 0),
    (65257, 4, 1607, 0), (65261, 2, 1608, 0), (65263, 2, 1609, 0), (65265, 4, 1610, 0),
    (65296, 10, 48, 1), (65313, 26, 65, 1), (65343, 1, 95, 0), (65345, 26, 97, 1),
    (65382, 1, 12530, 0), (65383, 1, 12449, 0), (65384, 1, 12451, 0), (65385, 1, 12453, 0),
    (65386, 1, 12455, 0), (65387, 1, 12457, 0), (65388, 1, 12515, 0), (65389, 1, 12517, 0),
    (65390, 1, 12519, 0), (65391, 1, 12483, 0), (65392, 1, 12540, 0), (65393, 1, 12450, 0),
    (65394, 1, 12452, 0), (65395, 1, 12454, 0), (65396, 1, 12456, 0), (65397, 2, 12458, 1),
    (65399, 1, 12461, 0), (65400, 1, 12463, 0), (65401, 1, 12465, 0), (65402, 1, 12467, 0),
    (65403, 1, 12469, 0), (65404, 1, 12471, 0), (65405, 1, 12473, 0), (65406, 1, 12475, 0),
    (65407, 1, 12477, 0), (65408, 1, 12479, 0), (65409, 1, 12481, 0), (65410, 1, 12484, 0),
    (65411, 1, 12486, 0), (65412, 1, 12488, 0), (65413, 6, 12490, 1), (65419, 1, 12498, 0),
    (65420, 1, 12501, 0), (65421, 1, 12504, 0), (65422, 1, 12507, 0), (65423, 5, 12510, 1),
    (65428, 1, 12516, 0), (65429, 1, 12518, 0), (65430, 6, 12520, 1), (65436, 1, 12527, 0),
    (65437, 1, 12531, 0), (65438, 2, 12441, 1), (65440, 1, 4448, 0), (65441, 2, 4352, 1),
    (65443, 1, 4522, 0), (65444, 1, 4354, 0), (65445, 2, 4524, 1), (65447, 3, 4355, 1),
    (65450, 6, 4528, 1), (65456, 1, 4378, 0), (65457, 3, 4358, 1), (65460, 1, 4385, 0),
    (65461, 10, 4361, 1), (65474, 6, 4449, 1), (65482, 6, 4455, 1), (65490, 6, 4461, 1),
    (65498, 3, 4467, 1), (67457, 2, 720, 1), (67459, 1, 230, 0), (67460, 1, 665, 0),
    (67461, 1, 595, 0), (67463, 1, 675, 0), (67464, 1, 43878, 0), (67465, 1, 677, 0),
    (67466, 1, 676, 0), (67467, 2, 598, 1), (67469, 1, 7569, 0), (67470, 1, 600, 0),
    (67471, 1, 606, 0), (67472, 1, 681, 0), (67473, 1, 612, 0), (67474, 1, 610, 0),
    (67475, 1, 608, 0), (67476, 1, 667, 0), (67477, 1, 295, 0), (67478, 1, 668, 0),
    (67479, 1, 615, 0), (67480, 1, 644, 0), (67481, 2, 682, 1), (67483, 1, 620, 0),
    (67484, 1, 122628, 0), (67485, 1, 42894, 0), (67486, 1, 622, 0), (67487, 1, 122629, 0),
    (67488, 1, 654, 0), (67489, 1, 122630, 0), (67490, 1, 248, 0), (67491, 2, 630, 1),
    (67493, 1, 113, 0), (67494, 1, 634, 0), (67495, 1, 122632, 0), (67496, 2, 637, 1),
    (67498, 1, 640, 0), (67499, 1, 680, 0), (67500, 1, 678, 0), (67501, 1, 43879, 0),
    (67502, 1, 679, 0), (67503, 1, 648, 0), (67504, 1, 11377, 0), (67506, 1, 655, 0),
    (67507, 2, 673, 1), (67509, 1, 664, 0), (67510, 3, 448, 1), (67513, 1, 122634, 0),
    (67514, 1, 122654, 0), (119808, 26, 65, 1), (119834, 26, 97, 1), (119860, 26, 65, 1),
    (119886, 7, 97, 1), (119894, 18, 105, 1), (119912, 26, 65, 1), (119938, 26, 97, 1),
    (119964, 1, 65, 0), (119966, 2, 67, 1), (119970, 1, 71, 0), (119973, 2, 74, 1),
    (119977, 4, 78, 1), (119982, 8, 83, 1), (119990, 4, 97, 1), (119995, 1, 102, 0),
    (119997, 7, 104, 1), (120005, 11, 112, 1), (120016, 26, 65, 1), (120042, 26, 97, 1),
    (120068, 2, 65, 1), (120071, 4, 68, 1), (120077, 8, 74, 1), (120086, 7, 83, 1),
    (120094, 26, 97, 1), (120120, 2, 65, 1), (120123, 4, 68, 1), (120128, 5, 73, 1),
    (120134, 1, 79, 0), (120138, 7, 83, 1), (120146, 26, 97, 1), (120172, 26, 65, 1),
    (120198, 26, 97, 1), (120224, 26, 65, 1), (120250, 26, 97, 1), (120276, 26, 65, 1),
    (120302, 26, 97, 1), (120328, 26, 65, 1), (120354, 26, 97, 1), (120380, 26, 65, 1),
    (120406, 26, 97, 1), (120432, 26, 65, 1), (120458, 26, 97, 1), (120484, 1, 305, 0),
    (120485, 1, 567, 0), (120488, 17, 913, 1), (120505, 1, 920, 0), (120506, 7, 931, 1),
    (120514, 25, 945, 1), (120540, 1, 949, 0), (120541, 1, 952, 0), (120542, 1, 954, 0),
    (120543, 1, 966, 0), (120544, 1, 961, 0), (120545, 1, 960, 0), (120546, 17, 913, 1),
    (120563, 1, 920, 0), (120564, 7, 931, 1), (120572, 25, 945, 1), (120598, 1, 949, 0),
    (120599, 1, 952, 0), (120600, 1, 954, 0), (120601, 1, 966, 0), (120602, 1, 961, 0),
    (120603, 1, 960, 0), (120604, 17, 913, 1), (120621, 1, 920, 0), (120622, 7, 931, 1),
    (120630, 25, 945, 1), (120656, 1, 949, 0), (120657, 1, 952, 0), (120658, 1, 954, 0),
    (120659, 1, 966, 0), (120660, 1, 961, 0), (120661, 1, 960, 0), (120662, 17, 913, 1),
    (120679, 1, 920, 0), (120680, 7, 931, 1), (120688, 25, 945, 1), (120714, 1, 949, 0),
    (120715, 1, 952, 0), (120716, 1, 954, 0), (120717, 1, 966, 0), (120718, 1, 961, 0),
    (120719, 1, 960, 0), (120720, 17, 913, 1), (120737, 1, 920, 0), (120738, 7, 931, 1),
    (120746, 25, 945, 1), (120772, 1, 949, 0), (120773, 1, 952, 0), (120774, 1, 954, 0),
    (120775, 1, 966, 0), (120776, 1, 961, 0), (120777, 1, 960, 0), (120778, 2, 988, 1),
    (120782, 10, 48, 1), (120792, 10, 48, 1), (120802, 10, 48, 1), (120812, 10, 48, 1),
    (120822, 10, 48, 1), (126464, 2, 1575, 1), (126466, 1, 1580, 0), (126467, 1, 1583, 0),
    (126469, 1, 1608, 0), (126470, 1, 1586, 0), (126471, 1, 1581, 0), (126472, 1, 1591, 0),
    (126473, 1, 1610, 0), (126474, 4, 1603, 1), (126478, 1, 1587, 0), (126479, 1, 1593, 0),
    (126480, 1, 1601, 0), (126481, 1, 1589, 0), (126482, 1, 1602, 0), (126483, 1, 1585, 0),
    (126484, 1, 1588, 0), (126485, 2, 1578, 1), (126487, 1, 1582, 0), (126488, 1, 1584, 0),
    (126489, 1, 1590, 0), (126490, 1, 1592, 0), (126491, 1, 1594, 0), (126492, 1, 1646, 0),
    (126493, 1, 1722, 0), (126494, 1, 1697, 0), (126495, 1, 1647, 0), (126497, 1, 1576, 0),
    (126498, 1, 1580, 0), (126500, 1, 1607, 0), (126503, 1, 1581, 0), (126505, 1, 1610, 0),
    (126506, 4, 1603, 1), (126510, 1, 1587, 0), (126511, 1, 1593, 0), (126512, 1, 1601, 0),
    (126513, 1, 1589, 0), (126514, 1, 1602, 0), (126516, 1, 1588, 0), (126517, 2, 1578, 1),
    (126519, 1, 1582, 0), (126521, 1, 1590, 0), (126523, 1, 1594, 0), (126530, 1, 1580, 0),
    (126535, 1, 1581, 0), (126537, 1, 1610, 0), (126539, 1, 1604, 0), (126541, 1, 1606, 0),
    (126542, 1, 1587, 0), (126543, 1, 1593, 0), (126545, 1, 1589, 0), (126546, 1, 1602, 0),
    (126548, 1, 1588, 0), (126551, 1, 1582, 0), (126553, 1, 1590, 0), (126555, 1, 1594, 0),
    (126557, 1, 1722, 0), (126559, 1, 1647, 0), (126561, 1, 1576, 0), (126562, 1, 1580, 0),
    (126564, 1, 1607, 0), (126567, 1, 1581, 0), (126568, 1, 1591, 0), (126569, 1, 1610, 0),
    (126570, 1, 1603, 0), (126572, 2, 1605, 1), (126574, 1, 1587, 0), (126575, 1, 1593, 0),
    (126576, 1, 1601, 0), (126577, 1, 1589, 0), (126578, 1, 1602, 0), (126580, 1, 1588, 0),
    (126581, 2, 1578, 1), (126583, 1, 1582, 0), (126585, 1, 1590, 0), (126586, 1, 1592, 0),
    (126587, 1, 1594, 0), (126588, 1, 1646, 0), (126590, 1, 1697, 0), (126592, 2, 1575, 1),
    (126594, 1, 1580, 0), (126595, 1, 1583, 0), (126596, 2, 1607, 1), (126598, 1, 1586, 0),
    (126599, 1, 1581, 0), (126600, 1, 1591, 0), (126601, 1, 1610, 0), (126603, 3, 1604, 1),
    (126606, 1, 1587, 0), (126607, 1, 1593, 0), (126608, 1, 1601, 0), (126609, 1, 1589, 0),
    (126610, 1, 1602, 0), (126611, 1, 1585, 0), (126612, 1, 1588, 0), (126613, 2, 1578, 1),
    (126615, 1, 1582, 0), (126616, 1, 1584, 0), (126617, 1, 1590, 0), (126618, 1, 1592, 0),
    (126619, 1, 1594, 0), (126625, 1, 1576, 0), (126626, 1, 1580, 0), (126627, 1, 1583, 0),
    (126629, 1, 1608, 0), (126630, 1, 1586, 0), (126631, 1, 1581, 0), (126632, 1, 1591, 0),
    (126633, 1, 1610, 0), (126635, 3, 1604, 1), (126638, 1, 1587, 0), (126639, 1, 1593, 0),
    (126640, 1, 1601, 0), (126641, 1, 1589, 0), (126642, 1, 1602, 0), (126643, 1, 1585, 0),
    (126644, 1, 1588, 0), (126645, 2, 1578, 1), (126647, 1, 1582, 0), (126648, 1, 1584, 0),
    (126649, 1, 1590, 0), (126650, 1, 1592, 0), (126651, 1, 1594, 0), (130032, 10, 48, 1)]

/-- Ideographs that are written for others, by the first of each run of them. -/
def ideographForms : List (Nat × List Nat) :=
  [(63744, [35912, 26356, 36554, 36040, 28369, 20018, 21477, 40860, 40860, 22865, 37329, 21895,
      22856, 25078, 30313, 32645, 34367, 34746, 35064, 37007, 27138, 27931, 28889, 29662, 33853,
      37226, 39409, 20098, 21365, 27396, 29211, 34349, 40478, 23888, 28651, 34253, 35172, 25289,
      33240, 34847, 24266, 26391, 28010, 29436, 37070, 20358, 20919, 21214, 25796, 27347, 29200,
      30439, 32769, 34310, 34396, 36335, 38706, 39791, 40442, 30860, 31103, 32160, 33737, 37636,
      40575, 35542, 22751, 24324, 31840, 32894, 29282, 30922, 36034, 38647, 22744, 23650, 27155,
      28122, 28431, 32047, 32311, 38475, 21202, 32907, 20956, 20940, 31260, 32190, 33777, 38517,
      35712, 25295, 27138, 35582, 20025, 23527, 24594, 29575, 30064, 21271, 30971, 20415, 24489,
      19981, 27852, 25976, 32034, 21443, 22622, 30465, 33865, 35498, 27578, 36784, 27784, 25342,
      33509, 25504, 30053, 20142, 20841, 20937, 26753, 31975, 33391, 35538, 37327, 21237, 21570,
      22899, 24300, 26053, 28670, 31018, 38317, 39530, 40599, 40654, 21147, 26310, 27511, 36706,
      24180, 24976, 25088, 25754, 28451, 29001, 29833, 31178, 32244, 32879, 36646, 34030, 36899,
      37706, 21015, 21155, 21693, 28872, 35010, 35498, 24265, 24565, 25467, 27566, 31806, 29557,
      20196, 22265, 23527, 23994, 24604, 29618, 29801, 32666, 32838, 37428, 38646, 38728, 38936,
      20363, 31150, 37300, 38584, 24801, 20102, 20698, 23534, 23615, 26009, 27138, 29134, 30274,
      34044, 36988, 40845, 26248, 38446, 21129, 26491, 26611, 27969, 28316, 29705, 30041, 30827,
      32016, 39006, 20845, 25134, 38520, 20523, 23833, 28138, 36650, 24459, 24900, 26647, 29575,
      38534, 21033, 21519, 23653, 26131, 26446, 26792, 27877, 29702, 30178, 32633, 35023, 35041,
      37324, 38626, 21311, 28346, 21533, 29136, 29848, 34298, 38563, 40023, 40607, 26519, 28107,
      33256, 31435, 31520, 31890, 29376, 28825, 35672, 20160, 33590, 21050, 20999, 24230, 25299,
      31958, 23429, 27934, 26292, 36667, 34892, 38477, 35211, 24275, 20800, 21952]),
    (64016, [22618]),
    (64018, [26228]),
    (64021, [20958, 29482, 30410, 31036, 31070, 31077, 31119, 38742, 31934, 32701]),
    (64032, [34322]),
    (64034, [35576]),
    (64037, [36920, 37117]),
    (64042, [39151, 39164, 39208, 40372, 37086, 38583, 20398, 20711, 20813, 21193, 21220, 21329,
      21917, 22022, 22120, 22592, 22696, 23652, 23662, 24724, 24936, 24974, 25074, 25935, 26082,
      26257, 26757, 28023, 28186, 28450, 29038, 29227, 29730, 30865, 31038, 31049, 31048, 31056,
      31062, 31069, 31117, 31118, 31296, 31361, 31680, 32244, 32265, 32321, 32626, 32773, 33261,
      33401, 33401, 33879, 35088, 35222, 35585, 35641, 36051, 36104, 36790, 36920, 38627, 38911,
      38971, 24693, 148206, 33304]),
    (64112, [20006, 20917, 20840, 20352, 20805, 20864, 21191, 21242, 21917, 21845, 21913, 21986,
      22618, 22707, 22852, 22868, 23138, 23336, 24274, 24281, 24425, 24493, 24792, 24910, 24840,
      24974, 24928, 25074, 25140, 25540, 25628, 25682, 25942, 26228, 26391, 26395, 26454, 27513,
      27578, 27969, 28379, 28363, 28450, 28702, 29038, 30631, 29237, 29359, 29482, 29809, 29958,
      30011, 30237, 30239, 30410, 30427, 30452, 30538, 30528, 30924, 31409, 31680, 31867, 32091,
      32244, 32574, 32773, 33618, 33775, 34681, 35137, 35206, 35222, 35519, 35576, 35531, 35585,
      35582, 35565, 35641, 35722, 36104, 36664, 36978, 37273, 37494, 38524, 38627, 38742, 38875,
      38911, 38923, 38971, 39698, 40860, 141386, 141380, 144341, 15261, 16408, 16441, 152137,
      154832, 163539, 40771, 40846]),
    (194560, [20029, 20024, 20033, 131362, 20320, 20398, 20411, 20482, 20602, 20633, 20711, 20687,
      13470, 132666, 20813, 20820, 20836, 20855, 132380, 13497, 20839, 20877, 132427, 20887, 20900,
      20172, 20908, 20917, 168415, 20981, 20995, 13535, 21051, 21062, 21106, 21111, 13589, 21191,
      21193, 21220, 21242, 21253, 21254, 21271, 21321, 21329, 21338, 21363, 21373, 21375, 21375,
      21375, 133676, 28784, 21450, 21471, 133987, 21483, 21489, 21510, 21662, 21560, 21576, 21608,
      21666, 21750, 21776, 21843, 21859, 21892, 21892, 21913, 21931, 21939, 21954, 22294, 22022,
      22295, 22097, 22132, 20999, 22766, 22478, 22516, 22541, 22411, 22578, 22577, 22700, 136420,
      22770, 22775, 22790, 22810, 22818, 22882, 136872, 136938, 23020, 23067, 23079, 23000, 23142,
      14062, 14076, 23304, 23358, 23358, 137672, 23491, 23512, 23527, 23539, 138008, 23551, 23558,
      24403, 23586, 14209, 23648, 23662, 23744, 23693, 138724, 23875, 138726, 23918, 23915, 23932,
      24033, 24034, 14383, 24061, 24104, 24125, 24169, 14434, 139651, 14460, 24240, 24243, 24246,
      24266, 172946, 24318, 140081, 140081, 33281, 24354, 24354, 14535, 144056, 156122, 24418,
      24427, 14563, 24474, 24525, 24535, 24569, 24705, 14650, 14620, 24724, 141012, 24775, 24904,
      24908, 24910, 24908, 24954, 24974, 25010, 24996, 25007, 25054, 25074, 25078, 25104, 25115,
      25181, 25265, 25300, 25424, 142092, 25405, 25340, 25448, 25475, 25572, 142321, 25634, 25541,
      25513, 14894, 25705, 25726, 25757, 25719, 14956, 25935, 25964, 143370, 26083, 26360, 26185,
      15129, 26257, 15112, 15076, 20882, 20885, 26368, 26268, 32941, 17369, 26391, 26395, 26401,
      26462, 26451, 144323, 15177, 26618, 26501, 26706, 26757, 144493, 26766, 26655, 26900, 15261,
      26946, 27043, 27114, 27304, 145059, 27355, 15384, 27425, 145575, 27476, 15438, 27506, 27551,
      27578, 27579, 146061, 138507, 146170, 27726, 146620, 27839, 27853, 27751, 27926, 27966, 28023,
      27969, 28009, 28024, 28037, 146718, 27956, 28207, 28270, 15667, 28363, 28359, 147153, 28153,
      28526, 147294, 147342, 28614, 28729, 28702, 28699, 15766, 28746, 28797, 28791, 28845, 132389,
      28997, 148067, 29084, 148395, 29224, 29237, 29264, 149000, 29312, 29333, 149301, 149524,
      29562, 29579, 16044, 29605, 16056, 16056, 29767, 29788, 29809, 29829, 29898, 16155, 29988,
      150582, 30014, 150674, 30064, 139679, 30224, 151457, 151480, 151620, 16380, 16392, 30452,
      151795, 151794, 151833, 151859, 30494, 30495, 30495, 30538, 16441, 30603, 16454, 16534,
      152605, 30798, 30860, 30924, 16611, 153126, 31062, 153242, 153285, 31119, 31211, 16687, 31296,
      31306, 31311, 153980, 154279, 154279, 31470, 16898, 154539, 31686, 31689, 16935, 154752,
      31954, 17056, 31976, 31971, 32000, 155526, 32099, 17153, 32199, 32258, 32325, 17204, 156200,
      156231, 17241, 156377, 32634, 156478, 32661, 32762, 32773, 156890, 156963, 32864, 157096,
      32880, 144223, 17365, 32946, 33027, 17419, 33086, 23221, 157607, 157621, 144275, 144284,
      33281, 33284, 36766, 17515, 33425, 33419, 33437, 21171, 33457, 33459, 33469, 33510, 158524,
      33509, 33565, 33635, 33709, 33571, 33725, 33767, 33879, 33619, 33738, 33740, 33756, 158774,
      159083, 158933, 17707, 34033, 34035, 34070, 160714, 34148, 159532, 17757, 17761, 159665,
      159954, 17771, 34384, 34396, 34407, 34409, 34473, 34440, 34574, 34530, 34681, 34600, 34667,
      34694, 17879, 34785, 34817, 17913, 34912, 34915, 161383, 35031, 35038, 17973, 35066, 13499,
      161966, 162150, 18110, 18119, 35488, 35565, 35722, 35925, 162984, 36011, 36033, 36123, 36215,
      163631, 133124, 36299, 36284, 36336, 133342, 36564, 36664, 165330, 165357, 37012, 37105,
      37137, 165678, 37147, 37432, 37591, 37592, 37500, 37881, 37909, 166906, 38283, 18837, 38327,
      167287, 18918, 38595, 23986, 38691, 168261, 168474, 19054, 19062, 38880, 168970, 19122,
      169110, 38923, 38923, 38953, 169398, 39138, 19251, 39209, 39335, 39362, 39422, 19406, 170800,
      39698, 40000, 40189, 19662, 19693, 40295, 172238, 19704, 172293, 172558, 172689, 40635, 19798,
      40697, 40702, 40709, 40719, 40726, 40763, 173568])]

/-- Characters that are written for several others or that no composition leads back to. -/
def sequenceForms : List (Nat × List Nat) :=
  [(306, [73, 74]), (307, [105, 106]), (319, [76, 183]), (320, [108, 183]), (329, [700, 110]),
    (452, [68, 90, 780]), (453, [68, 122, 780]), (454, [100, 122, 780]), (455, [76, 74]), (456, [76,
      106]), (457, [108, 106]), (458, [78, 74]), (459, [78, 106]), (460, [110, 106]), (497, [68,
      90]), (498, [68, 122]), (499, [100, 122]), (836, [776, 769]), (979, [933, 769]), (980, [933,
      776]), (1415, [1381, 1410]), (1653, [1575, 1652]), (1654, [1608, 1652]), (1655, [1735, 1652]),
    (1656, [1610, 1652]), (2392, [2325, 2364]), (2393, [2326, 2364]), (2394, [2327, 2364]),
    (2395, [2332, 2364]), (2396, [2337, 2364]), (2397, [2338, 2364]), (2398, [2347, 2364]),
    (2399, [2351, 2364]), (2524, [2465, 2492]), (2525, [2466, 2492]), (2527, [2479, 2492]),
    (2611, [2610, 2620]), (2614, [2616, 2620]), (2649, [2582, 2620]), (2650, [2583, 2620]),
    (2651, [2588, 2620]), (2654, [2603, 2620]), (2908, [2849, 2876]), (2909, [2850, 2876]),
    (3635, [3661, 3634]), (3763, [3789, 3762]), (3804, [3755, 3737]), (3805, [3755, 3745]),
    (3907, [3906, 4023]), (3917, [3916, 4023]), (3922, [3921, 4023]), (3927, [3926, 4023]),
    (3932, [3931, 4023]), (3945, [3904, 4021]), (3955, [3953, 3954]), (3957, [3953, 3956]),
    (3958, [4018, 3968]), (3959, [4018, 3953, 3968]), (3960, [4019, 3968]), (3961, [4019, 3953,
      3968]), (3969, [3953, 3968]), (3987, [3986, 4023]), (3997, [3996, 4023]), (4002, [4001,
      4023]), (4007, [4006, 4023]), (4012, [4011, 4023]), (4025, [3984, 4021]), (7834, [97, 702]),
    (7835, [115, 775]), (8049, [945, 769]), (8051, [949, 769]), (8053, [951, 769]), (8055, [953,
      769]), (8057, [959, 769]), (8059, [965, 769]), (8061, [969, 769]), (8123, [913, 769]),
    (8137, [917, 769]), (8139, [919, 769]), (8147, [953, 776, 769]), (8155, [921, 769]),
    (8163, [965, 776, 769]), (8171, [933, 769]), (8185, [927, 769]), (8187, [937, 769]), (8491, [65,
      778]), (8545, [73, 73]), (8546, [73, 73, 73]), (8547, [73, 86]), (8549, [86, 73]), (8550, [86,
      73, 73]), (8551, [86, 73, 73, 73]), (8552, [73, 88]), (8554, [88, 73]), (8555, [88, 73, 73]),
    (8561, [105, 105]), (8562, [105, 105, 105]), (8563, [105, 118]), (8565, [118, 105]),
    (8566, [118, 105, 105]), (8567, [118, 105, 105, 105]), (8568, [105, 120]), (8570, [120, 105]),
    (8571, [120, 105, 105]), (12447, [12424, 12426]), (12543, [12467, 12488]), (64256, [102, 102]),
    (64257, [102, 105]), (64258, [102, 108]), (64259, [102, 102, 105]), (64260, [102, 102, 108]),
    (64261, [115, 116]), (64262, [115, 116]), (64275, [1396, 1398]), (64276, [1396, 1381]),
    (64277, [1396, 1387]), (64278, [1406, 1398]), (64279, [1396, 1389]), (64285, [1497, 1460]),
    (64287, [1522, 1463]), (64298, [1513, 1473]), (64299, [1513, 1474]), (64300, [1513, 1468,
      1473]), (64301, [1513, 1468, 1474]), (64302, [1488, 1463]), (64303, [1488, 1464]),
    (64304, [1488, 1468]), (64305, [1489, 1468]), (64306, [1490, 1468]), (64307, [1491, 1468]),
    (64308, [1492, 1468]), (64309, [1493, 1468]), (64310, [1494, 1468]), (64312, [1496, 1468]),
    (64313, [1497, 1468]), (64314, [1498, 1468]), (64315, [1499, 1468]), (64316, [1500, 1468]),
    (64318, [1502, 1468]), (64320, [1504, 1468]), (64321, [1505, 1468]), (64323, [1507, 1468]),
    (64324, [1508, 1468]), (64326, [1510, 1468]), (64327, [1511, 1468]), (64328, [1512, 1468]),
    (64329, [1513, 1468]), (64330, [1514, 1468]), (64331, [1493, 1465]), (64332, [1489, 1471]),
    (64333, [1499, 1471]), (64334, [1508, 1471]), (64335, [1488, 1500]), (64420, [1749, 1620]),
    (64421, [1749, 1620]), (64432, [1746, 1620]), (64433, [1746, 1620]), (64477, [1735, 1652]),
    (64490, [1610, 1620, 1575]), (64491, [1610, 1620, 1575]), (64492, [1610, 1620, 1749]),
    (64493, [1610, 1620, 1749]), (64494, [1610, 1620, 1608]), (64495, [1610, 1620, 1608]),
    (64496, [1610, 1620, 1735]), (64497, [1610, 1620, 1735]), (64498, [1610, 1620, 1734]),
    (64499, [1610, 1620, 1734]), (64500, [1610, 1620, 1736]), (64501, [1610, 1620, 1736]),
    (64502, [1610, 1620, 1744]), (64503, [1610, 1620, 1744]), (64504, [1610, 1620, 1744]),
    (64505, [1610, 1620, 1609]), (64506, [1610, 1620, 1609]), (64507, [1610, 1620, 1609]),
    (64512, [1610, 1620, 1580]), (64513, [1610, 1620, 1581]), (64514, [1610, 1620, 1605]),
    (64515, [1610, 1620, 1609]), (64516, [1610, 1620, 1610]), (64517, [1576, 1580]), (64518, [1576,
      1581]), (64519, [1576, 1582]), (64520, [1576, 1605]), (64521, [1576, 1609]), (64522, [1576,
      1610]), (64523, [1578, 1580]), (64524, [1578, 1581]), (64525, [1578, 1582]), (64526, [1578,
      1605]), (64527, [1578, 1609]), (64528, [1578, 1610]), (64529, [1579, 1580]), (64530, [1579,
      1605]), (64531, [1579, 1609]), (64532, [1579, 1610]), (64533, [1580, 1581]), (64534, [1580,
      1605]), (64535, [1581, 1580]), (64536, [1581, 1605]), (64537, [1582, 1580]), (64538, [1582,
      1581]), (64539, [1582, 1605]), (64540, [1587, 1580]), (64541, [1587, 1581]), (64542, [1587,
      1582]), (64543, [1587, 1605]), (64544, [1589, 1581]), (64545, [1589, 1605]), (64546, [1590,
      1580]), (64547, [1590, 1581]), (64548, [1590, 1582]), (64549, [1590, 1605]), (64550, [1591,
      1581]), (64551, [1591, 1605]), (64552, [1592, 1605]), (64553, [1593, 1580]), (64554, [1593,
      1605]), (64555, [1594, 1580]), (64556, [1594, 1605]), (64557, [1601, 1580]), (64558, [1601,
      1581]), (64559, [1601, 1582]), (64560, [1601, 1605]), (64561, [1601, 1609]), (64562, [1601,
      1610]), (64563, [1602, 1581]), (64564, [1602, 1605]), (64565, [1602, 1609]), (64566, [1602,
      1610]), (64567, [1603, 1575]), (64568, [1603, 1580]), (64569, [1603, 1581]), (64570, [1603,
      1582]), (64571, [1603, 1604]), (64572, [1603, 1605]), (64573, [1603, 1609]), (64574, [1603,
      1610]), (64575, [1604, 1580]), (64576, [1604, 1581]), (64577, [1604, 1582]), (64578, [1604,
      1605]), (64579, [1604, 1609]), (64580, [1604, 1610]), (64581, [1605, 1580]), (64582, [1605,
      1581]), (64583, [1605, 1582]), (64584, [1605, 1605]), (64585, [1605, 1609]), (64586, [1605,
      1610]), (64587, [1606, 1580]), (64588, [1606, 1581]), (64589, [1606, 1582]), (64590, [1606,
      1605]), (64591, [1606, 1609]), (64592, [1606, 1610]), (64593, [1607, 1580]), (64594, [1607,
      1605]), (64595, [1607, 1609]), (64596, [1607, 1610]), (64597, [1610, 1580]), (64598, [1610,
      1581]), (64599, [1610, 1582]), (64600, [1610, 1605]), (64601, [1610, 1609]), (64602, [1610,
      1610]), (64603, [1584, 1648]), (64604, [1585, 1648]), (64605, [1609, 1648]), (64612, [1610,
      1620, 1585]), (64613, [1610, 1620, 1586]), (64614, [1610, 1620, 1605]), (64615, [1610, 1620,
      1606]), (64616, [1610, 1620, 1609]), (64617, [1610, 1620, 1610]), (64618, [1576, 1585]),
    (64619, [1576, 1586]), (64620, [1576, 1605]), (64621, [1576, 1606]), (64622, [1576, 1609]),
    (64623, [1576, 1610]), (64624, [1578, 1585]), (64625, [1578, 1586]), (64626, [1578, 1605]),
    (64627, [1578, 1606]), (64628, [1578, 1609]), (64629, [1578, 1610]), (64630, [1579, 1585]),
    (64631, [1579, 1586]), (64632, [1579, 1605]), (64633, [1579, 1606]), (64634, [1579, 1609]),
    (64635, [1579, 1610]), (64636, [1601, 1609]), (64637, [1601, 1610]), (64638, [1602, 1609]),
    (64639, [1602, 1610]), (64640, [1603, 1575]), (64641, [1603, 1604]), (64642, [1603, 1605]),
    (64643, [1603, 1609]), (64644, [1603, 1610]), (64645, [1604, 1605]), (64646, [1604, 1609]),
    (64647, [1604, 1610]), (64648, [1605, 1575]), (64649, [1605, 1605]), (64650, [1606, 1585]),
    (64651, [1606, 1586]), (64652, [1606, 1605]), (64653, [1606, 1606]), (64654, [1606, 1609]),
    (64655, [1606, 1610]), (64656, [1609, 1648]), (64657, [1610, 1585]), (64658, [1610, 1586]),
    (64659, [1610, 1605]), (64660, [1610, 1606]), (64661, [1610, 1609]), (64662, [1610, 1610]),
    (64663, [1610, 1620, 1580]), (64664, [1610, 1620, 1581]), (64665, [1610, 1620, 1582]),
    (64666, [1610, 1620, 1605]), (64667, [1610, 1620, 1607]), (64668, [1576, 1580]), (64669, [1576,
      1581]), (64670, [1576, 1582]), (64671, [1576, 1605]), (64672, [1576, 1607]), (64673, [1578,
      1580]), (64674, [1578, 1581]), (64675, [1578, 1582]), (64676, [1578, 1605]), (64677, [1578,
      1607]), (64678, [1579, 1605]), (64679, [1580, 1581]), (64680, [1580, 1605]), (64681, [1581,
      1580]), (64682, [1581, 1605]), (64683, [1582, 1580]), (64684, [1582, 1605]), (64685, [1587,
      1580]), (64686, [1587, 1581]), (64687, [1587, 1582]), (64688, [1587, 1605]), (64689, [1589,
      1581]), (64690, [1589, 1582]), (64691, [1589, 1605]), (64692, [1590, 1580]), (64693, [1590,
      1581]), (64694, [1590, 1582]), (64695, [1590, 1605]), (64696, [1591, 1581]), (64697, [1592,
      1605]), (64698, [1593, 1580]), (64699, [1593, 1605]), (64700, [1594, 1580]), (64701, [1594,
      1605]), (64702, [1601, 1580]), (64703, [1601, 1581]), (64704, [1601, 1582]), (64705, [1601,
      1605]), (64706, [1602, 1581]), (64707, [1602, 1605]), (64708, [1603, 1580]), (64709, [1603,
      1581]), (64710, [1603, 1582]), (64711, [1603, 1604]), (64712, [1603, 1605]), (64713, [1604,
      1580]), (64714, [1604, 1581]), (64715, [1604, 1582]), (64716, [1604, 1605]), (64717, [1604,
      1607]), (64718, [1605, 1580]), (64719, [1605, 1581]), (64720, [1605, 1582]), (64721, [1605,
      1605]), (64722, [1606, 1580]), (64723, [1606, 1581]), (64724, [1606, 1582]), (64725, [1606,
      1605]), (64726, [1606, 1607]), (64727, [1607, 1580]), (64728, [1607, 1605]), (64729, [1607,
      1648]), (64730, [1610, 1580]), (64731, [1610, 1581]), (64732, [1610, 1582]), (64733, [1610,
      1605]), (64734, [1610, 1607]), (64735, [1610, 1620, 1605]), (64736, [1610, 1620, 1607]),
    (64737, [1576, 1605]), (64738, [1576, 1607]), (64739, [1578, 1605]), (64740, [1578, 1607]),
    (64741, [1579, 1605]), (64742, [1579, 1607]), (64743, [1587, 1605]), (64744, [1587, 1607]),
    (64745, [1588, 1605]), (64746, [1588, 1607]), (64747, [1603, 1604]), (64748, [1603, 1605]),
    (64749, [1604, 1605]), (64750, [1606, 1605]), (64751, [1606, 1607]), (64752, [1610, 1605]),
    (64753, [1610, 1607]), (64754, [1600, 1614, 1617]), (64755, [1600, 1615, 1617]), (64756, [1600,
      1616, 1617]), (64757, [1591, 1609]), (64758, [1591, 1610]), (64759, [1593, 1609]),
    (64760, [1593, 1610]), (64761, [1594, 1609]), (64762, [1594, 1610]), (64763, [1587, 1609]),
    (64764, [1587, 1610]), (64765, [1588, 1609]), (64766, [1588, 1610]), (64767, [1581, 1609]),
    (64768, [1581, 1610]), (64769, [1580, 1609]), (64770, [1580, 1610]), (64771, [1582, 1609]),
    (64772, [1582, 1610]), (64773, [1589, 1609]), (64774, [1589, 1610]), (64775, [1590, 1609]),
    (64776, [1590, 1610]), (64777, [1588, 1580]), (64778, [1588, 1581]), (64779, [1588, 1582]),
    (64780, [1588, 1605]), (64781, [1588, 1585]), (64782, [1587, 1585]), (64783, [1589, 1585]),
    (64784, [1590, 1585]), (64785, [1591, 1609]), (64786, [1591, 1610]), (64787, [1593, 1609]),
    (64788, [1593, 1610]), (64789, [1594, 1609]), (64790, [1594, 1610]), (64791, [1587, 1609]),
    (64792, [1587, 1610]), (64793, [1588, 1609]), (64794, [1588, 1610]), (64795, [1581, 1609]),
    (64796, [1581, 1610]), (64797, [1580, 1609]), (64798, [1580, 1610]), (64799, [1582, 1609]),
    (64800, [1582, 1610]), (64801, [1589, 1609]), (64802, [1589, 1610]), (64803, [1590, 1609]),
    (64804, [1590, 1610]), (64805, [1588, 1580]), (64806, [1588, 1581]), (64807, [1588, 1582]),
    (64808, [1588, 1605]), (64809, [1588, 1585]), (64810, [1587, 1585]), (64811, [1589, 1585]),
    (64812, [1590, 1585]), (64813, [1588, 1580]), (64814, [1588, 1581]), (64815, [1588, 1582]),
    (64816, [1588, 1605]), (64817, [1587, 1607]), (64818, [1588, 1607]), (64819, [1591, 1605]),
    (64820, [1587, 1580]), (64821, [1587, 1581]), (64822, [1587, 1582]), (64823, [1588, 1580]),
    (64824, [1588, 1581]), (64825, [1588, 1582]), (64826, [1591, 1605]), (64827, [1592, 1605]),
    (64828, [1575, 1611]), (64829, [1575, 1611]), (64848, [1578, 1580, 1605]), (64849, [1578, 1581,
      1580]), (64850, [1578, 1581, 1580]), (64851, [1578, 1581, 1605]), (64852, [1578, 1582, 1605]),
    (64853, [1578, 1605, 1580]), (64854, [1578, 1605, 1581]), (64855, [1578, 1605, 1582]),
    (64856, [1580, 1605, 1581]), (64857, [1580, 1605, 1581]), (64858, [1581, 1605, 1610]),
    (64859, [1581, 1605, 1609]), (64860, [1587, 1581, 1580]), (64861, [1587, 1580, 1581]),
    (64862, [1587, 1580, 1609]), (64863, [1587, 1605, 1581]), (64864, [1587, 1605, 1581]),
    (64865, [1587, 1605, 1580]), (64866, [1587, 1605, 1605]), (64867, [1587, 1605, 1605]),
    (64868, [1589, 1581, 1581]), (64869, [1589, 1581, 1581]), (64870, [1589, 1605, 1605]),
    (64871, [1588, 1581, 1605]), (64872, [1588, 1581, 1605]), (64873, [1588, 1580, 1610]),
    (64874, [1588, 1605, 1582]), (64875, [1588, 1605, 1582]), (64876, [1588, 1605, 1605]),
    (64877, [1588, 1605, 1605]), (64878, [1590, 1581, 1609]), (64879, [1590, 1582, 1605]),
    (64880, [1590, 1582, 1605]), (64881, [1591, 1605, 1581]), (64882, [1591, 1605, 1581]),
    (64883, [1591, 1605, 1605]), (64884, [1591, 1605, 1610]), (64885, [1593, 1580, 1605]),
    (64886, [1593, 1605, 1605]), (64887, [1593, 1605, 1605]), (64888, [1593, 1605, 1609]),
    (64889, [1594, 1605, 1605]), (64890, [1594, 1605, 1610]), (64891, [1594, 1605, 1609]),
    (64892, [1601, 1582, 1605]), (64893, [1601, 1582, 1605]), (64894, [1602, 1605, 1581]),
    (64895, [1602, 1605, 1605]), (64896, [1604, 1581, 1605]), (64897, [1604, 1581, 1610]),
    (64898, [1604, 1581, 1609]), (64899, [1604, 1580, 1580]), (64900, [1604, 1580, 1580]),
    (64901, [1604, 1582, 1605]), (64902, [1604, 1582, 1605]), (64903, [1604, 1605, 1581]),
    (64904, [1604, 1605, 1581]), (64905, [1605, 1581, 1580]), (64906, [1605, 1581, 1605]),
    (64907, [1605, 1581, 1610]), (64908, [1605, 1580, 1581]), (64909, [1605, 1580, 1605]),
    (64910, [1605, 1582, 1580]), (64911, [1605, 1582, 1605]), (64914, [1605, 1580, 1582]),
    (64915, [1607, 1605, 1580]), (64916, [1607, 1605, 1605]), (64917, [1606, 1581, 1605]),
    (64918, [1606, 1581, 1609]), (64919, [1606, 1580, 1605]), (64920, [1606, 1580, 1605]),
    (64921, [1606, 1580, 1609]), (64922, [1606, 1605, 1610]), (64923, [1606, 1605, 1609]),
    (64924, [1610, 1605, 1605]), (64925, [1610, 1605, 1605]), (64926, [1576, 1582, 1610]),
    (64927, [1578, 1580, 1610]), (64928, [1578, 1580, 1609]), (64929, [1578, 1582, 1610]),
    (64930, [1578, 1582, 1609]), (64931, [1578, 1605, 1610]), (64932, [1578, 1605, 1609]),
    (64933, [1580, 1605, 1610]), (64934, [1580, 1581, 1609]), (64935, [1580, 1605, 1609]),
    (64936, [1587, 1582, 1609]), (64937, [1589, 1581, 1610]), (64938, [1588, 1581, 1610]),
    (64939, [1590, 1581, 1610]), (64940, [1604, 1580, 1610]), (64941, [1604, 1605, 1610]),
    (64942, [1610, 1581, 1610]), (64943, [1610, 1580, 1610]), (64944, [1610, 1605, 1610]),
    (64945, [1605, 1605, 1610]), (64946, [1602, 1605, 1610]), (64947, [1606, 1581, 1610]),
    (64948, [1602, 1605, 1581]), (64949, [1604, 1581, 1605]), (64950, [1593, 1605, 1610]),
    (64951, [1603, 1605, 1610]), (64952, [1606, 1580, 1581]), (64953, [1605, 1582, 1610]),
    (64954, [1604, 1580, 1605]), (64955, [1603, 1605, 1605]), (64956, [1604, 1580, 1605]),
    (64957, [1606, 1580, 1581]), (64958, [1580, 1581, 1610]), (64959, [1581, 1580, 1610]),
    (64960, [1605, 1580, 1610]), (64961, [1601, 1605, 1610]), (64962, [1576, 1581, 1610]),
    (64963, [1603, 1605, 1605]), (64964, [1593, 1580, 1605]), (64965, [1589, 1605, 1605]),
    (64966, [1587, 1582, 1610]), (64967, [1606, 1580, 1610]), (65008, [1589, 1604, 1746]),
    (65009, [1602, 1604, 1746]), (65010, [1575, 1604, 1604, 1607]), (65011, [1575, 1603, 1576,
      1585]), (65012, [1605, 1581, 1605, 1583]), (65013, [1589, 1604, 1593, 1605]), (65014, [1585,
      1587, 1608, 1604]), (65015, [1593, 1604, 1610, 1607]), (65016, [1608, 1587, 1604, 1605]),
    (65017, [1589, 1604, 1609]), (65137, [1600, 1611]), (65143, [1600, 1614]), (65145, [1600,
      1615]), (65147, [1600, 1616]), (65149, [1600, 1617]), (65151, [1600, 1618]), (65153, [1575,
      1619]), (65154, [1575, 1619]), (65155, [1575, 1620]), (65156, [1575, 1620]), (65157, [1608,
      1620]), (65158, [1608, 1620]), (65159, [1575, 1621]), (65160, [1575, 1621]), (65161, [1610,
      1620]), (65162, [1610, 1620]), (65163, [1610, 1620]), (65164, [1610, 1620]), (65269, [1604,
      1575, 1619]), (65270, [1604, 1575, 1619]), (65271, [1604, 1575, 1620]), (65272, [1604, 1575,
      1620]), (65273, [1604, 1575, 1621]), (65274, [1604, 1575, 1621]), (65275, [1604, 1575]),
    (65276, [1604, 1575])]

/-- The classes of characters that the table for host names says nothing about: the first of a run, how
many they are, and their class. -/
def furtherOrders : List (Nat × Nat × Nat) :=
  [(837, 1, 240), (847, 1, 0), (880, 1, 0), (1162, 1, 0), (3955, 1, 0), (3957, 5, 0), (3969, 1, 0),
    (4969, 9, 0), (7680, 1, 0), (8400, 2, 230), (8402, 2, 1), (8404, 4, 230), (8408, 3, 1),
    (8411, 2, 230), (8417, 1, 230), (8421, 2, 1), (8423, 1, 230), (8424, 1, 220), (8425, 1, 230),
    (8426, 2, 1), (8428, 4, 220), (8432, 1, 230), (11506, 1, 0), (12334, 2, 224), (12337, 5, 0),
    (12344, 4, 0), (43360, 29, 0), (64287, 10, 0), (64298, 13, 0), (64312, 5, 0), (64318, 1, 0),
    (64320, 2, 0), (64323, 2, 0), (64326, 108, 0), (64467, 139, 0), (64612, 218, 0), (64848, 64, 0),
    (64914, 54, 0), (65008, 10, 0), (65024, 16, 0), (65075, 2, 0), (65101, 3, 0), (65137, 1, 0),
    (71840, 32, 0), (119141, 2, 216), (119143, 3, 1), (119149, 1, 226), (119150, 5, 216),
    (119163, 8, 220), (119173, 5, 230), (119178, 2, 220), (119210, 4, 230), (119362, 3, 230),
    (125184, 34, 0)]

end SchemaDecl.Text
