import ParamGate.Text.Charset.Plane

/-!
# Additions to GBK

What GB 18030 has beside GBK: further pairs of bytes, and codes that take four bytes, which are
numbered in the order of their bytes.
-/

namespace ParamGate.Text.Charset

/-- What GB 18030 has beside GBK in the rows of symbols. -/
def gb18030Symbols : Plane where
  firstRow := 33
  rows := #[
    "..........................................................................................." ++
    "...............\ue766\ue767\ue768\ue769\ue76a\ue76b........................................" ++
    "..........€\ue76d..........\ue76e\ue76f............\ue770\ue771",
    "",
    "..........................................................................................." ++
    "........................................................................................" ++
    "\ue772\ue773\ue774\ue775\ue776\ue777\ue778\ue779\ue77a\ue77b\ue77c",
    "..........................................................................................." ++
    "..........................................................................................." ++
    "\ue77d\ue77e\ue77f\ue780\ue781\ue782\ue783\ue784",
    "..........................................................................................." ++
    ".............................\ue785\ue786\ue787\ue788\ue789\ue78a\ue78b\ue78c.............." ++
    "..........\ue78d\ue78e\ue78f\ue790\ue791\ue792\ue793............\ue794\ue795.....\ue796.." ++
    "\ue797\ue798\ue799\ue79a\ue79b\ue79c\ue79d\ue79e\ue79f",
    "..........................................................................................." ++
    "......................................\ue7a0\ue7a1\ue7a2\ue7a3\ue7a4\ue7a5\ue7a6\ue7a7" ++
    "\ue7a8\ue7a9\ue7aa\ue7ab\ue7ac\ue7ad\ue7ae.................................\ue7af\ue7b0" ++
    "\ue7b1\ue7b2\ue7b3\ue7b4\ue7b5\ue7b6\ue7b7\ue7b8\ue7b9\ue7ba\ue7bb",
    ".....................................................................................\ue7bc" ++
    "\ue7bd\ue7be\ue7bf\ue7c0\ue7c1\ue7c2\ue7c3\ue7c4\ue7c5\ue7c6..........................." ++
    "\ue7c7..ǹ.\ue7c9\ue7ca\ue7cb\ue7cc.....................................\ue7cd\ue7ce\ue7cf" ++
    "\ue7d0\ue7d1\ue7d2\ue7d3\ue7d4\ue7d5\ue7d6\ue7d7\ue7d8\ue7d9\ue7da\ue7db\ue7dc\ue7dd\ue7de" ++
    "\ue7df\ue7e0\ue7e1",
    "........................\ue7e2..\ue7e3.\ue7e4\ue7e5\ue7e6.................................." ++
    "......〾⿰⿱⿲⿳⿴⿵⿶⿷⿸⿹⿺⿻.\ue7f4\ue7f5\ue7f6\ue7f7\ue7f8\ue7f9\ue7fa\ue7fb\ue7fc\ue7fd\ue7fe" ++
    "\ue7ff\ue800............................................................................" ++
    "\ue801\ue802\ue803\ue804\ue805\ue806\ue807\ue808\ue809\ue80a\ue80b\ue80c\ue80d\ue80e\ue80f"]

/-- What GB 18030 has in a gap of GBK. -/
def gb18030Gap : Plane where
  firstRow := 86
  rows := #[
    "..........................................................................................." ++
    "..........................................................................................." ++
    "...\ue810\ue811\ue812\ue813\ue814"]

/-- What GB 18030 has in the last row. -/
def gb18030End : Plane where
  firstRow := 125
  rows := #[
    "................⺁\ue816\ue817\ue818⺄㑳㑇⺈⺋\ue81e㖞㘚㘎⺌⺗㥮㤘\ue826㧏㧟㩳㧐\ue82b\ue82c㭎㱮㳠⺧\ue831\ue832" ++
    "⺪䁖䅟⺮䌷⺳⺶⺷\ue83b䎱䎬⺻䏝䓖䙡䙌\ue843䜣䜩䝼䞍⻊䥇䥺䥽䦂䦃䦅䦆䦟䦛䦷䦶\ue854\ue855䲣䲟䲠䲡䱷䲢䴓䴔䴕䴖䴗䴘䴙䶮\ue864"]

/-- Runs of codes that take four bytes: the number of the first one, its code, and how many follow
each other. -/
def gb18030Runs : List (Nat × Nat × Nat) :=
  [
    (0, 128, 36), (36, 165, 2), (38, 169, 7), (45, 178, 5), (50, 184, 31), (81, 216, 8),
    (89, 226, 6), (95, 235, 1), (96, 238, 4), (100, 244, 3), (103, 248, 1), (104, 251, 1),
    (105, 253, 4), (109, 258, 17), (126, 276, 7), (133, 284, 15), (148, 300, 24), (172, 325, 3),
    (175, 329, 4), (179, 334, 29), (208, 364, 98), (306, 463, 1), (307, 465, 1), (308, 467, 1),
    (309, 469, 1), (310, 471, 1), (311, 473, 1), (312, 475, 1), (313, 477, 28), (341, 506, 87),
    (428, 594, 15), (443, 610, 101), (544, 712, 1), (545, 716, 13), (558, 730, 183), (741, 930, 1),
    (742, 938, 7), (749, 962, 1), (750, 970, 55), (805, 1026, 14), (819, 1104, 1),
    (820, 1106, 7102), (7922, 8209, 2), (7924, 8215, 1), (7925, 8218, 2), (7927, 8222, 7),
    (7934, 8231, 9), (7943, 8241, 1), (7944, 8244, 1), (7945, 8246, 5), (7950, 8252, 112),
    (8062, 8365, 86), (8148, 8452, 1), (8149, 8454, 3), (8152, 8458, 12), (8164, 8471, 10),
    (8174, 8482, 62), (8236, 8556, 4), (8240, 8570, 22), (8262, 8596, 2), (8264, 8602, 110),
    (8374, 8713, 6), (8380, 8720, 1), (8381, 8722, 3), (8384, 8726, 4), (8388, 8731, 2),
    (8390, 8737, 2), (8392, 8740, 1), (8393, 8742, 1), (8394, 8748, 2), (8396, 8751, 5),
    (8401, 8760, 5), (8406, 8766, 10), (8416, 8777, 3), (8419, 8781, 5), (8424, 8787, 13),
    (8437, 8802, 2), (8439, 8808, 6), (8445, 8816, 37), (8482, 8854, 3), (8485, 8858, 11),
    (8496, 8870, 25), (8521, 8896, 82), (8603, 8979, 333), (8936, 9322, 10), (8946, 9372, 100),
    (9046, 9548, 4), (9050, 9588, 13), (9063, 9616, 3), (9066, 9622, 10), (9076, 9634, 16),
    (9092, 9652, 8), (9100, 9662, 8), (9108, 9672, 3), (9111, 9676, 2), (9113, 9680, 18),
    (9131, 9702, 31), (9162, 9735, 2), (9164, 9738, 54), (9218, 9793, 1), (9219, 9795, 2110),
    (11329, 11906, 2), (11331, 11909, 3), (11334, 11913, 2), (11336, 11917, 10),
    (11346, 11928, 15), (11361, 11944, 2), (11363, 11947, 3), (11366, 11951, 4), (11370, 11956, 2),
    (11372, 11960, 3), (11375, 11964, 14), (11389, 11979, 293), (11682, 12284, 4),
    (11686, 12292, 1), (11687, 12312, 5), (11692, 12319, 2), (11694, 12330, 20), (11714, 12351, 2),
    (11716, 12436, 7), (11723, 12447, 2), (11725, 12535, 5), (11730, 12543, 6),
    (11736, 12586, 246), (11982, 12842, 7), (11989, 12850, 113), (12102, 12964, 234),
    (12336, 13200, 12), (12348, 13215, 2), (12350, 13218, 34), (12384, 13253, 9),
    (12393, 13263, 2), (12395, 13267, 2), (12397, 13270, 113), (12510, 13384, 43),
    (12553, 13428, 298), (12851, 13727, 111), (12962, 13839, 11), (12973, 13851, 765),
    (13738, 14617, 85), (13823, 14703, 96), (13919, 14801, 14), (13933, 14816, 147),
    (14080, 14964, 218), (14298, 15183, 287), (14585, 15471, 113), (14698, 15585, 885),
    (15583, 16471, 264), (15847, 16736, 471), (16318, 17208, 116), (16434, 17325, 4),
    (16438, 17330, 43), (16481, 17374, 248), (16729, 17623, 373), (17102, 17997, 20),
    (17122, 18018, 193), (17315, 18212, 5), (17320, 18218, 82), (17402, 18301, 16),
    (17418, 18318, 441), (17859, 18760, 50), (17909, 18811, 2), (17911, 18814, 4),
    (17915, 18820, 1), (17916, 18823, 20), (17936, 18844, 3), (17939, 18848, 22),
    (17961, 18872, 703), (18664, 19576, 39), (18703, 19620, 111), (18814, 19738, 148),
    (18962, 19887, 81), (19043, 40870, 14426), (33469, 59244, 1), (33470, 59336, 1),
    (33471, 59367, 13), (33484, 59413, 1), (33485, 59417, 5), (33490, 59423, 7), (33497, 59431, 4),
    (33501, 59437, 4), (33505, 59443, 8), (33513, 59452, 7), (33520, 59460, 16),
    (33536, 59478, 14), (33550, 59493, 4295), (37845, 63789, 76), (37921, 63866, 27),
    (37948, 63894, 81), (38029, 63976, 9), (38038, 63986, 26), (38064, 64016, 1),
    (38065, 64018, 1), (38066, 64021, 3), (38069, 64025, 6), (38075, 64034, 1), (38076, 64037, 2),
    (38078, 64042, 1030), (39108, 65074, 1), (39109, 65093, 4), (39113, 65107, 1),
    (39114, 65112, 1), (39115, 65127, 1), (39116, 65132, 149), (39265, 65375, 129),
    (39394, 65510, 26)
  ]

end ParamGate.Text.Charset
