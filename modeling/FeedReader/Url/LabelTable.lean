import FeedReader.Text.RangeTable

/-!
# Characters in labels

What decides whether a label may hold a character where it stands.  The ranges
also cover code points that no label holds.
-/

namespace FeedReader.Url

open FeedReader.Text (RangeTable RangeMap)

def labelMarks : RangeTable := #[
  (0x300, 0x36f), (0x483, 0x489), (0x591, 0x5bd), (0x5bf, 0x5bf), (0x5c1, 0x5c2), (0x5c4, 0x5c5),
  (0x5c7, 0x5c7), (0x610, 0x61a), (0x64b, 0x65f), (0x670, 0x670), (0x6d6, 0x6dc), (0x6df, 0x6e4),
  (0x6e7, 0x6e8), (0x6ea, 0x6ed), (0x711, 0x711), (0x730, 0x74a), (0x7a6, 0x7b0), (0x7eb, 0x7f3),
  (0x7fd, 0x7fd), (0x816, 0x819), (0x81b, 0x823), (0x825, 0x827), (0x829, 0x82d), (0x859, 0x85b),
  (0x897, 0x89f), (0x8ca, 0x903), (0x93a, 0x93c), (0x93e, 0x94f), (0x951, 0x957), (0x962, 0x963),
  (0x981, 0x983), (0x9bc, 0x9bc), (0x9be, 0x9cd), (0x9d7, 0x9d7), (0x9e2, 0x9e3), (0x9fe, 0xa03),
  (0xa3c, 0xa51), (0xa70, 0xa71), (0xa75, 0xa75), (0xa81, 0xa83), (0xabc, 0xabc), (0xabe, 0xacd),
  (0xae2, 0xae3), (0xafa, 0xb03), (0xb3c, 0xb3c), (0xb3e, 0xb57), (0xb62, 0xb63), (0xb82, 0xb82),
  (0xbbe, 0xbcd), (0xbd7, 0xbd7), (0xc00, 0xc04), (0xc3c, 0xc3c), (0xc3e, 0xc56), (0xc62, 0xc63),
  (0xc81, 0xc83), (0xcbc, 0xcbc), (0xcbe, 0xcd6), (0xce2, 0xce3), (0xcf3, 0xd03), (0xd3b, 0xd3c),
  (0xd3e, 0xd4d), (0xd57, 0xd57), (0xd62, 0xd63), (0xd81, 0xd83), (0xdca, 0xddf), (0xdf2, 0xdf3),
  (0xe31, 0xe31), (0xe34, 0xe3a), (0xe47, 0xe4e), (0xeb1, 0xeb1), (0xeb4, 0xebc), (0xec8, 0xece),
  (0xf18, 0xf19), (0xf35, 0xf35), (0xf37, 0xf37), (0xf39, 0xf39), (0xf3e, 0xf3f), (0xf71, 0xf84),
  (0xf86, 0xf87), (0xf8d, 0xfbc), (0xfc6, 0xfc6), (0x102b, 0x103e), (0x1056, 0x1059),
  (0x105e, 0x1060), (0x1062, 0x1064), (0x1067, 0x106d), (0x1071, 0x1074), (0x1082, 0x108d),
  (0x108f, 0x108f), (0x109a, 0x109d), (0x135d, 0x135f), (0x1712, 0x1715), (0x1732, 0x1734),
  (0x1752, 0x1753), (0x1772, 0x1773), (0x17b6, 0x17d3), (0x17dd, 0x17dd), (0x1885, 0x1886),
  (0x18a9, 0x18a9), (0x1920, 0x193b), (0x1a17, 0x1a1b), (0x1a55, 0x1a7f), (0x1ab0, 0x1b04),
  (0x1b34, 0x1b44), (0x1b6b, 0x1b73), (0x1b80, 0x1b82), (0x1ba1, 0x1bad), (0x1be6, 0x1bf3),
  (0x1c24, 0x1c37), (0x1cd0, 0x1cd2), (0x1cd4, 0x1ce8), (0x1ced, 0x1ced), (0x1cf4, 0x1cf4),
  (0x1cf7, 0x1cf9), (0x1dc0, 0x1dff), (0x20d0, 0x20f0), (0x2cef, 0x2cf1), (0x2d7f, 0x2d7f),
  (0x2de0, 0x2dff), (0x302a, 0x302f), (0x3099, 0x309a), (0xa66f, 0xa672), (0xa674, 0xa67d),
  (0xa69e, 0xa69f), (0xa6f0, 0xa6f1), (0xa802, 0xa802), (0xa806, 0xa806), (0xa80b, 0xa80b),
  (0xa823, 0xa827), (0xa82c, 0xa82c), (0xa880, 0xa881), (0xa8b4, 0xa8c5), (0xa8e0, 0xa8f1),
  (0xa8ff, 0xa8ff), (0xa926, 0xa92d), (0xa947, 0xa953), (0xa980, 0xa983), (0xa9b3, 0xa9c0),
  (0xa9e5, 0xa9e5), (0xaa29, 0xaa36), (0xaa43, 0xaa43), (0xaa4c, 0xaa4d), (0xaa7b, 0xaa7d),
  (0xaab0, 0xaab0), (0xaab2, 0xaab4), (0xaab7, 0xaab8), (0xaabe, 0xaabf), (0xaac1, 0xaac1),
  (0xaaeb, 0xaaef), (0xaaf5, 0xaaf6), (0xabe3, 0xabea), (0xabec, 0xabed), (0xfb1e, 0xfb1e),
  (0xfe20, 0xfe2f), (0x101fd, 0x101fd), (0x102e0, 0x102e0), (0x10376, 0x1037a), (0x10a01, 0x10a0f),
  (0x10a38, 0x10a3f), (0x10ae5, 0x10ae6), (0x10d24, 0x10d27), (0x10d69, 0x10d6d),
  (0x10eab, 0x10eac), (0x10efa, 0x10eff), (0x10f46, 0x10f50), (0x10f82, 0x10f85),
  (0x11000, 0x11002), (0x11038, 0x11046), (0x11070, 0x11070), (0x11073, 0x11074),
  (0x1107f, 0x11082), (0x110b0, 0x110ba), (0x110c2, 0x110c2), (0x11100, 0x11102),
  (0x11127, 0x11134), (0x11145, 0x11146), (0x11173, 0x11173), (0x11180, 0x11182),
  (0x111b3, 0x111c0), (0x111c9, 0x111cc), (0x111ce, 0x111cf), (0x1122c, 0x11237),
  (0x1123e, 0x1123e), (0x11241, 0x11241), (0x112df, 0x112ea), (0x11300, 0x11303),
  (0x1133b, 0x1133c), (0x1133e, 0x1134d), (0x11357, 0x11357), (0x11362, 0x11374),
  (0x113b8, 0x113d0), (0x113d2, 0x113d2), (0x113e1, 0x113e2), (0x11435, 0x11446),
  (0x1145e, 0x1145e), (0x114b0, 0x114c3), (0x115af, 0x115c0), (0x115dc, 0x115dd),
  (0x11630, 0x11640), (0x116ab, 0x116b7), (0x1171d, 0x1172b), (0x1182c, 0x1183a),
  (0x11930, 0x1193e), (0x11940, 0x11940), (0x11942, 0x11943), (0x119d1, 0x119e0),
  (0x119e4, 0x119e4), (0x11a01, 0x11a0a), (0x11a33, 0x11a39), (0x11a3b, 0x11a3e),
  (0x11a47, 0x11a47), (0x11a51, 0x11a5b), (0x11a8a, 0x11a99), (0x11b60, 0x11b67),
  (0x11c2f, 0x11c3f), (0x11c92, 0x11cb6), (0x11d31, 0x11d45), (0x11d47, 0x11d47),
  (0x11d8a, 0x11d97), (0x11ef3, 0x11ef6), (0x11f00, 0x11f01), (0x11f03, 0x11f03),
  (0x11f34, 0x11f42), (0x11f5a, 0x11f5a), (0x13440, 0x13440), (0x13447, 0x13455),
  (0x1611e, 0x1612f), (0x16af0, 0x16af4), (0x16b30, 0x16b36), (0x16f4f, 0x16f4f),
  (0x16f51, 0x16f92), (0x16fe4, 0x16ff1), (0x1bc9d, 0x1bc9e), (0x1cf00, 0x1cf46),
  (0x1d165, 0x1d169), (0x1d16d, 0x1d182), (0x1d185, 0x1d18b), (0x1d1aa, 0x1d1ad),
  (0x1d242, 0x1d244), (0x1da00, 0x1da36), (0x1da3b, 0x1da6c), (0x1da75, 0x1da75),
  (0x1da84, 0x1da84), (0x1da9b, 0x1daaf), (0x1e000, 0x1e08f), (0x1e130, 0x1e136),
  (0x1e2ae, 0x1e2ae), (0x1e2ec, 0x1e2ef), (0x1e4ec, 0x1e4ef), (0x1e5ee, 0x1e5ef),
  (0x1e6e3, 0x1e6e3), (0x1e6e6, 0x1e6e6), (0x1e6ee, 0x1e6ef), (0x1e6f5, 0x1e6f5),
  (0x1e8d0, 0x1e8d6), (0x1e944, 0x1e94a)]

/-! ## Directions -/

inductive Direction where
  | left
  | right
  /-- European digits. -/
  | european
  /-- Arabic digits. -/
  | arabic
  | mark
  | neutral
  deriving DecidableEq, Repr

def directions : RangeMap Direction := #[
  (0x0, 0x2f, .neutral), (0x30, 0x39, .european), (0x3a, 0x60, .neutral), (0x7b, 0xd7, .neutral),
  (0xf7, 0xf7, .neutral), (0x2b9, 0x2ba, .neutral), (0x2c2, 0x2cf, .neutral),
  (0x2d2, 0x2ed, .neutral), (0x2ef, 0x2ff, .neutral), (0x300, 0x36f, .mark),
  (0x375, 0x375, .neutral), (0x3f6, 0x3f6, .neutral), (0x483, 0x489, .mark),
  (0x58a, 0x58f, .neutral), (0x591, 0x5bd, .mark), (0x5be, 0x5be, .right), (0x5bf, 0x5bf, .mark),
  (0x5c0, 0x5c0, .right), (0x5c1, 0x5c2, .mark), (0x5c3, 0x5c3, .right), (0x5c4, 0x5c5, .mark),
  (0x5c6, 0x5c6, .right), (0x5c7, 0x5c7, .mark), (0x5d0, 0x5f4, .right), (0x606, 0x607, .neutral),
  (0x608, 0x608, .right), (0x609, 0x60a, .neutral), (0x60b, 0x60b, .right),
  (0x60c, 0x60c, .neutral), (0x60d, 0x60d, .right), (0x60e, 0x60f, .neutral), (0x610, 0x61a, .mark),
  (0x61b, 0x64a, .right), (0x64b, 0x65f, .mark), (0x660, 0x669, .arabic), (0x66a, 0x66a, .neutral),
  (0x66b, 0x66c, .arabic), (0x66d, 0x66f, .right), (0x670, 0x670, .mark), (0x671, 0x6d5, .right),
  (0x6d6, 0x6dc, .mark), (0x6de, 0x6de, .neutral), (0x6df, 0x6e4, .mark), (0x6e5, 0x6e6, .right),
  (0x6e7, 0x6e8, .mark), (0x6e9, 0x6e9, .neutral), (0x6ea, 0x6ed, .mark), (0x6ee, 0x6ef, .right),
  (0x6f0, 0x6f9, .european), (0x6fa, 0x710, .right), (0x711, 0x711, .mark), (0x712, 0x72f, .right),
  (0x730, 0x74a, .mark), (0x74d, 0x7a5, .right), (0x7a6, 0x7b0, .mark), (0x7b1, 0x7ea, .right),
  (0x7eb, 0x7f3, .mark), (0x7f4, 0x7f5, .right), (0x7f6, 0x7f9, .neutral), (0x7fa, 0x7fa, .right),
  (0x7fd, 0x7fd, .mark), (0x7fe, 0x815, .right), (0x816, 0x819, .mark), (0x81a, 0x81a, .right),
  (0x81b, 0x823, .mark), (0x824, 0x824, .right), (0x825, 0x827, .mark), (0x828, 0x828, .right),
  (0x829, 0x82d, .mark), (0x830, 0x858, .right), (0x859, 0x85b, .mark), (0x85e, 0x88f, .right),
  (0x897, 0x89f, .mark), (0x8a0, 0x8c9, .right), (0x8ca, 0x902, .mark), (0x93a, 0x93a, .mark),
  (0x93c, 0x93c, .mark), (0x941, 0x948, .mark), (0x94d, 0x94d, .mark), (0x951, 0x957, .mark),
  (0x962, 0x963, .mark), (0x981, 0x981, .mark), (0x9bc, 0x9bc, .mark), (0x9c1, 0x9c4, .mark),
  (0x9cd, 0x9cd, .mark), (0x9e2, 0x9e3, .mark), (0x9f2, 0x9f3, .neutral), (0x9fb, 0x9fb, .neutral),
  (0x9fe, 0xa02, .mark), (0xa3c, 0xa3c, .mark), (0xa41, 0xa51, .mark), (0xa70, 0xa71, .mark),
  (0xa75, 0xa75, .mark), (0xa81, 0xa82, .mark), (0xabc, 0xabc, .mark), (0xac1, 0xac8, .mark),
  (0xacd, 0xacd, .mark), (0xae2, 0xae3, .mark), (0xaf1, 0xaf1, .neutral), (0xafa, 0xb01, .mark),
  (0xb3c, 0xb3c, .mark), (0xb3f, 0xb3f, .mark), (0xb41, 0xb44, .mark), (0xb4d, 0xb56, .mark),
  (0xb62, 0xb63, .mark), (0xb82, 0xb82, .mark), (0xbc0, 0xbc0, .mark), (0xbcd, 0xbcd, .mark),
  (0xbf3, 0xbfa, .neutral), (0xc00, 0xc00, .mark), (0xc04, 0xc04, .mark), (0xc3c, 0xc3c, .mark),
  (0xc3e, 0xc40, .mark), (0xc46, 0xc56, .mark), (0xc62, 0xc63, .mark), (0xc78, 0xc7e, .neutral),
  (0xc81, 0xc81, .mark), (0xcbc, 0xcbc, .mark), (0xccc, 0xccd, .mark), (0xce2, 0xce3, .mark),
  (0xd00, 0xd01, .mark), (0xd3b, 0xd3c, .mark), (0xd41, 0xd44, .mark), (0xd4d, 0xd4d, .mark),
  (0xd62, 0xd63, .mark), (0xd81, 0xd81, .mark), (0xdca, 0xdca, .mark), (0xdd2, 0xdd6, .mark),
  (0xe31, 0xe31, .mark), (0xe34, 0xe3a, .mark), (0xe3f, 0xe3f, .neutral), (0xe47, 0xe4e, .mark),
  (0xeb1, 0xeb1, .mark), (0xeb4, 0xebc, .mark), (0xec8, 0xece, .mark), (0xf18, 0xf19, .mark),
  (0xf35, 0xf35, .mark), (0xf37, 0xf37, .mark), (0xf39, 0xf39, .mark), (0xf3a, 0xf3d, .neutral),
  (0xf71, 0xf7e, .mark), (0xf80, 0xf84, .mark), (0xf86, 0xf87, .mark), (0xf8d, 0xfbc, .mark),
  (0xfc6, 0xfc6, .mark), (0x102d, 0x1030, .mark), (0x1032, 0x1037, .mark), (0x1039, 0x103a, .mark),
  (0x103d, 0x103e, .mark), (0x1058, 0x1059, .mark), (0x105e, 0x1060, .mark),
  (0x1071, 0x1074, .mark), (0x1082, 0x1082, .mark), (0x1085, 0x1086, .mark),
  (0x108d, 0x108d, .mark), (0x109d, 0x109d, .mark), (0x135d, 0x135f, .mark),
  (0x1390, 0x1399, .neutral), (0x1400, 0x1400, .neutral), (0x169b, 0x169c, .neutral),
  (0x1712, 0x1714, .mark), (0x1732, 0x1733, .mark), (0x1752, 0x1753, .mark),
  (0x1772, 0x1773, .mark), (0x17b7, 0x17bd, .mark), (0x17c6, 0x17c6, .mark),
  (0x17c9, 0x17d3, .mark), (0x17db, 0x17db, .neutral), (0x17dd, 0x17dd, .mark),
  (0x17f0, 0x180a, .neutral), (0x1885, 0x1886, .mark), (0x18a9, 0x18a9, .mark),
  (0x1920, 0x1922, .mark), (0x1927, 0x1928, .mark), (0x1932, 0x1932, .mark),
  (0x1939, 0x193b, .mark), (0x1940, 0x1945, .neutral), (0x19de, 0x19ff, .neutral),
  (0x1a17, 0x1a18, .mark), (0x1a1b, 0x1a1b, .mark), (0x1a56, 0x1a56, .mark),
  (0x1a58, 0x1a60, .mark), (0x1a62, 0x1a62, .mark), (0x1a65, 0x1a6c, .mark),
  (0x1a73, 0x1a7f, .mark), (0x1ab0, 0x1b03, .mark), (0x1b34, 0x1b34, .mark),
  (0x1b36, 0x1b3a, .mark), (0x1b3c, 0x1b3c, .mark), (0x1b42, 0x1b42, .mark),
  (0x1b6b, 0x1b73, .mark), (0x1b80, 0x1b81, .mark), (0x1ba2, 0x1ba5, .mark),
  (0x1ba8, 0x1ba9, .mark), (0x1bab, 0x1bad, .mark), (0x1be6, 0x1be6, .mark),
  (0x1be8, 0x1be9, .mark), (0x1bed, 0x1bed, .mark), (0x1bef, 0x1bf1, .mark),
  (0x1c2c, 0x1c33, .mark), (0x1c36, 0x1c37, .mark), (0x1cd0, 0x1cd2, .mark),
  (0x1cd4, 0x1ce0, .mark), (0x1ce2, 0x1ce8, .mark), (0x1ced, 0x1ced, .mark),
  (0x1cf4, 0x1cf4, .mark), (0x1cf8, 0x1cf9, .mark), (0x1dc0, 0x1dff, .mark),
  (0x200c, 0x20c1, .neutral), (0x20d0, 0x20f0, .mark), (0x2104, 0x214d, .neutral),
  (0x218a, 0x2335, .neutral), (0x237b, 0x2394, .neutral), (0x2396, 0x26ab, .neutral),
  (0x26ad, 0x27ff, .neutral), (0x2900, 0x2bff, .neutral), (0x2ce5, 0x2cea, .neutral),
  (0x2cef, 0x2cf1, .mark), (0x2cf9, 0x2cff, .neutral), (0x2d7f, 0x2d7f, .mark),
  (0x2de0, 0x2dff, .mark), (0x2e00, 0x3004, .neutral), (0x3008, 0x3020, .neutral),
  (0x302a, 0x302d, .mark), (0x3030, 0x3030, .neutral), (0x3037, 0x3037, .neutral),
  (0x303d, 0x303f, .neutral), (0x3099, 0x309a, .mark), (0x30a0, 0x30a0, .neutral),
  (0x30fb, 0x30fb, .neutral), (0x31c0, 0x31e5, .neutral), (0x4dc0, 0x4dff, .neutral),
  (0xa490, 0xa4c6, .neutral), (0xa60d, 0xa60f, .neutral), (0xa66f, 0xa672, .mark),
  (0xa673, 0xa673, .neutral), (0xa674, 0xa67d, .mark), (0xa67e, 0xa67f, .neutral),
  (0xa69e, 0xa69f, .mark), (0xa6f0, 0xa6f1, .mark), (0xa700, 0xa721, .neutral),
  (0xa788, 0xa788, .neutral), (0xa802, 0xa802, .mark), (0xa806, 0xa806, .mark),
  (0xa80b, 0xa80b, .mark), (0xa825, 0xa826, .mark), (0xa828, 0xa82b, .neutral),
  (0xa82c, 0xa82c, .mark), (0xa838, 0xa839, .neutral), (0xa874, 0xa877, .neutral),
  (0xa8c4, 0xa8c5, .mark), (0xa8e0, 0xa8f1, .mark), (0xa8ff, 0xa8ff, .mark),
  (0xa926, 0xa92d, .mark), (0xa947, 0xa951, .mark), (0xa980, 0xa982, .mark),
  (0xa9b3, 0xa9b3, .mark), (0xa9b6, 0xa9b9, .mark), (0xa9bc, 0xa9bd, .mark),
  (0xa9e5, 0xa9e5, .mark), (0xaa29, 0xaa2e, .mark), (0xaa31, 0xaa32, .mark),
  (0xaa35, 0xaa36, .mark), (0xaa43, 0xaa43, .mark), (0xaa4c, 0xaa4c, .mark),
  (0xaa7c, 0xaa7c, .mark), (0xaab0, 0xaab0, .mark), (0xaab2, 0xaab4, .mark),
  (0xaab7, 0xaab8, .mark), (0xaabe, 0xaabf, .mark), (0xaac1, 0xaac1, .mark),
  (0xaaec, 0xaaed, .mark), (0xaaf6, 0xaaf6, .mark), (0xab6a, 0xab6b, .neutral),
  (0xabe5, 0xabe5, .mark), (0xabe8, 0xabe8, .mark), (0xabed, 0xabed, .mark),
  (0xfb1e, 0xfb1e, .mark), (0xfbb2, 0xfbc2, .right), (0xfbc3, 0xfdff, .neutral),
  (0xfe20, 0xfe2f, .mark), (0xfe45, 0xfe46, .neutral), (0xfe73, 0xfe73, .right),
  (0x10101, 0x10101, .neutral), (0x10140, 0x1018c, .neutral), (0x10190, 0x101a0, .neutral),
  (0x101fd, 0x101fd, .mark), (0x102e0, 0x102e0, .mark), (0x102e1, 0x102fb, .european),
  (0x10376, 0x1037a, .mark), (0x10800, 0x1091b, .right), (0x1091f, 0x1091f, .neutral),
  (0x10920, 0x10a00, .right), (0x10a01, 0x10a0f, .mark), (0x10a10, 0x10a35, .right),
  (0x10a38, 0x10a3f, .mark), (0x10a40, 0x10ae4, .right), (0x10ae5, 0x10ae6, .mark),
  (0x10aeb, 0x10b35, .right), (0x10b39, 0x10b3f, .neutral), (0x10b40, 0x10d23, .right),
  (0x10d24, 0x10d27, .mark), (0x10d30, 0x10d49, .arabic), (0x10d4a, 0x10d4f, .right),
  (0x10d69, 0x10d6d, .mark), (0x10d6e, 0x10d6e, .neutral), (0x10d6f, 0x10d8f, .right),
  (0x10e60, 0x10e7e, .arabic), (0x10e80, 0x10ea9, .right), (0x10eab, 0x10eac, .mark),
  (0x10ead, 0x10ec7, .right), (0x10ed0, 0x10ed8, .neutral), (0x10efa, 0x10eff, .mark),
  (0x10f00, 0x10f45, .right), (0x10f46, 0x10f50, .mark), (0x10f51, 0x10f81, .right),
  (0x10f82, 0x10f85, .mark), (0x10f86, 0x10ff6, .right), (0x11001, 0x11001, .mark),
  (0x11038, 0x11046, .mark), (0x11052, 0x11065, .neutral), (0x11070, 0x11070, .mark),
  (0x11073, 0x11074, .mark), (0x1107f, 0x11081, .mark), (0x110b3, 0x110b6, .mark),
  (0x110b9, 0x110ba, .mark), (0x110c2, 0x110c2, .mark), (0x11100, 0x11102, .mark),
  (0x11127, 0x1112b, .mark), (0x1112d, 0x11134, .mark), (0x11173, 0x11173, .mark),
  (0x11180, 0x11181, .mark), (0x111b6, 0x111be, .mark), (0x111c9, 0x111cc, .mark),
  (0x111cf, 0x111cf, .mark), (0x1122f, 0x11231, .mark), (0x11234, 0x11234, .mark),
  (0x11236, 0x11237, .mark), (0x1123e, 0x1123e, .mark), (0x11241, 0x11241, .mark),
  (0x112df, 0x112df, .mark), (0x112e3, 0x112ea, .mark), (0x11300, 0x11301, .mark),
  (0x1133b, 0x1133c, .mark), (0x11340, 0x11340, .mark), (0x11366, 0x11374, .mark),
  (0x113bb, 0x113c0, .mark), (0x113ce, 0x113ce, .mark), (0x113d0, 0x113d0, .mark),
  (0x113d2, 0x113d2, .mark), (0x113e1, 0x113e2, .mark), (0x11438, 0x1143f, .mark),
  (0x11442, 0x11444, .mark), (0x11446, 0x11446, .mark), (0x1145e, 0x1145e, .mark),
  (0x114b3, 0x114b8, .mark), (0x114ba, 0x114ba, .mark), (0x114bf, 0x114c0, .mark),
  (0x114c2, 0x114c3, .mark), (0x115b2, 0x115b5, .mark), (0x115bc, 0x115bd, .mark),
  (0x115bf, 0x115c0, .mark), (0x115dc, 0x115dd, .mark), (0x11633, 0x1163a, .mark),
  (0x1163d, 0x1163d, .mark), (0x1163f, 0x11640, .mark), (0x11660, 0x1166c, .neutral),
  (0x116ab, 0x116ab, .mark), (0x116ad, 0x116ad, .mark), (0x116b0, 0x116b5, .mark),
  (0x116b7, 0x116b7, .mark), (0x1171d, 0x1171d, .mark), (0x1171f, 0x1171f, .mark),
  (0x11722, 0x11725, .mark), (0x11727, 0x1172b, .mark), (0x1182f, 0x11837, .mark),
  (0x11839, 0x1183a, .mark), (0x1193b, 0x1193c, .mark), (0x1193e, 0x1193e, .mark),
  (0x11943, 0x11943, .mark), (0x119d4, 0x119db, .mark), (0x119e0, 0x119e0, .mark),
  (0x11a01, 0x11a06, .mark), (0x11a09, 0x11a0a, .mark), (0x11a33, 0x11a38, .mark),
  (0x11a3b, 0x11a3e, .mark), (0x11a47, 0x11a47, .mark), (0x11a51, 0x11a56, .mark),
  (0x11a59, 0x11a5b, .mark), (0x11a8a, 0x11a96, .mark), (0x11a98, 0x11a99, .mark),
  (0x11b60, 0x11b60, .mark), (0x11b62, 0x11b64, .mark), (0x11b66, 0x11b66, .mark),
  (0x11c30, 0x11c3d, .mark), (0x11c92, 0x11ca7, .mark), (0x11caa, 0x11cb0, .mark),
  (0x11cb2, 0x11cb3, .mark), (0x11cb5, 0x11cb6, .mark), (0x11d31, 0x11d45, .mark),
  (0x11d47, 0x11d47, .mark), (0x11d90, 0x11d91, .mark), (0x11d95, 0x11d95, .mark),
  (0x11d97, 0x11d97, .mark), (0x11ef3, 0x11ef4, .mark), (0x11f00, 0x11f01, .mark),
  (0x11f36, 0x11f3a, .mark), (0x11f40, 0x11f40, .mark), (0x11f42, 0x11f42, .mark),
  (0x11f5a, 0x11f5a, .mark), (0x11fd5, 0x11ff1, .neutral), (0x13440, 0x13440, .mark),
  (0x13447, 0x13455, .mark), (0x1611e, 0x16129, .mark), (0x1612d, 0x1612f, .mark),
  (0x16af0, 0x16af4, .mark), (0x16b30, 0x16b36, .mark), (0x16f4f, 0x16f4f, .mark),
  (0x16f8f, 0x16f92, .mark), (0x16fe2, 0x16fe2, .neutral), (0x16fe4, 0x16fe4, .mark),
  (0x1bc9d, 0x1bc9e, .mark), (0x1cc00, 0x1cef0, .neutral), (0x1cf00, 0x1cf46, .mark),
  (0x1d167, 0x1d169, .mark), (0x1d17b, 0x1d182, .mark), (0x1d185, 0x1d18b, .mark),
  (0x1d1aa, 0x1d1ad, .mark), (0x1d1e9, 0x1d241, .neutral), (0x1d242, 0x1d244, .mark),
  (0x1d245, 0x1d245, .neutral), (0x1d300, 0x1d356, .neutral), (0x1da00, 0x1da36, .mark),
  (0x1da3b, 0x1da6c, .mark), (0x1da75, 0x1da75, .mark), (0x1da84, 0x1da84, .mark),
  (0x1da9b, 0x1daaf, .mark), (0x1e000, 0x1e08f, .mark), (0x1e130, 0x1e136, .mark),
  (0x1e2ae, 0x1e2ae, .mark), (0x1e2ec, 0x1e2ef, .mark), (0x1e2ff, 0x1e2ff, .neutral),
  (0x1e4ec, 0x1e4ef, .mark), (0x1e5ee, 0x1e5ef, .mark), (0x1e6e3, 0x1e6e3, .mark),
  (0x1e6e6, 0x1e6e6, .mark), (0x1e6ee, 0x1e6ef, .mark), (0x1e6f5, 0x1e6f5, .mark),
  (0x1e800, 0x1e8cf, .right), (0x1e8d0, 0x1e8d6, .mark), (0x1e922, 0x1e943, .right),
  (0x1e944, 0x1e94a, .mark), (0x1e94b, 0x1ed3d, .right), (0x1eef0, 0x1f12f, .neutral),
  (0x1f16d, 0x1f16f, .neutral), (0x1f1ad, 0x1f1ad, .neutral), (0x1f260, 0x1fbfa, .neutral)]

/-! ## Joining -/

inductive Joining where
  | left
  | right
  | dual
  | transparent
  deriving DecidableEq, Repr

def joinings : RangeMap Joining := #[
  (0x300, 0x36f, .transparent), (0x483, 0x489, .transparent), (0x591, 0x5bd, .transparent),
  (0x5bf, 0x5bf, .transparent), (0x5c1, 0x5c2, .transparent), (0x5c4, 0x5c5, .transparent),
  (0x5c7, 0x5c7, .transparent), (0x610, 0x61a, .transparent), (0x620, 0x620, .dual),
  (0x622, 0x625, .right), (0x626, 0x626, .dual), (0x627, 0x627, .right), (0x628, 0x628, .dual),
  (0x629, 0x629, .right), (0x62a, 0x62e, .dual), (0x62f, 0x632, .right), (0x633, 0x63f, .dual),
  (0x641, 0x647, .dual), (0x648, 0x648, .right), (0x649, 0x64a, .dual),
  (0x64b, 0x65f, .transparent), (0x66e, 0x66f, .dual), (0x670, 0x670, .transparent),
  (0x671, 0x673, .right), (0x679, 0x687, .dual), (0x688, 0x699, .right), (0x69a, 0x6bf, .dual),
  (0x6c0, 0x6c0, .right), (0x6c1, 0x6c2, .dual), (0x6c3, 0x6cb, .right), (0x6cc, 0x6cc, .dual),
  (0x6cd, 0x6cd, .right), (0x6ce, 0x6ce, .dual), (0x6cf, 0x6cf, .right), (0x6d0, 0x6d1, .dual),
  (0x6d2, 0x6d3, .right), (0x6d5, 0x6d5, .right), (0x6d6, 0x6dc, .transparent),
  (0x6df, 0x6e4, .transparent), (0x6e7, 0x6e8, .transparent), (0x6ea, 0x6ed, .transparent),
  (0x6ee, 0x6ef, .right), (0x6fa, 0x6fc, .dual), (0x6ff, 0x6ff, .dual), (0x710, 0x710, .right),
  (0x711, 0x711, .transparent), (0x712, 0x714, .dual), (0x715, 0x719, .right),
  (0x71a, 0x71d, .dual), (0x71e, 0x71e, .right), (0x71f, 0x727, .dual), (0x728, 0x728, .right),
  (0x729, 0x729, .dual), (0x72a, 0x72a, .right), (0x72b, 0x72b, .dual), (0x72c, 0x72c, .right),
  (0x72d, 0x72e, .dual), (0x72f, 0x72f, .right), (0x730, 0x74a, .transparent),
  (0x74d, 0x74d, .right), (0x74e, 0x758, .dual), (0x759, 0x75b, .right), (0x75c, 0x76a, .dual),
  (0x76b, 0x76c, .right), (0x76d, 0x770, .dual), (0x771, 0x771, .right), (0x772, 0x772, .dual),
  (0x773, 0x774, .right), (0x775, 0x777, .dual), (0x778, 0x779, .right), (0x77a, 0x77f, .dual),
  (0x7a6, 0x7b0, .transparent), (0x7ca, 0x7ea, .dual), (0x7eb, 0x7f3, .transparent),
  (0x7fd, 0x7fd, .transparent), (0x816, 0x819, .transparent), (0x81b, 0x823, .transparent),
  (0x825, 0x827, .transparent), (0x829, 0x82d, .transparent), (0x840, 0x840, .right),
  (0x841, 0x845, .dual), (0x846, 0x847, .right), (0x848, 0x848, .dual), (0x849, 0x849, .right),
  (0x84a, 0x853, .dual), (0x854, 0x854, .right), (0x855, 0x855, .dual), (0x856, 0x858, .right),
  (0x859, 0x85b, .transparent), (0x860, 0x860, .dual), (0x862, 0x865, .dual),
  (0x867, 0x867, .right), (0x868, 0x868, .dual), (0x869, 0x882, .right), (0x886, 0x886, .dual),
  (0x889, 0x88d, .dual), (0x88e, 0x88e, .right), (0x88f, 0x88f, .dual),
  (0x897, 0x89f, .transparent), (0x8a0, 0x8a9, .dual), (0x8aa, 0x8ac, .right),
  (0x8ae, 0x8ae, .right), (0x8af, 0x8b0, .dual), (0x8b1, 0x8b2, .right), (0x8b3, 0x8b8, .dual),
  (0x8b9, 0x8b9, .right), (0x8ba, 0x8c8, .dual), (0x8ca, 0x902, .transparent),
  (0x93a, 0x93a, .transparent), (0x93c, 0x93c, .transparent), (0x941, 0x948, .transparent),
  (0x94d, 0x94d, .transparent), (0x951, 0x957, .transparent), (0x962, 0x963, .transparent),
  (0x981, 0x981, .transparent), (0x9bc, 0x9bc, .transparent), (0x9c1, 0x9c4, .transparent),
  (0x9cd, 0x9cd, .transparent), (0x9e2, 0x9e3, .transparent), (0x9fe, 0xa02, .transparent),
  (0xa3c, 0xa3c, .transparent), (0xa41, 0xa51, .transparent), (0xa70, 0xa71, .transparent),
  (0xa75, 0xa75, .transparent), (0xa81, 0xa82, .transparent), (0xabc, 0xabc, .transparent),
  (0xac1, 0xac8, .transparent), (0xacd, 0xacd, .transparent), (0xae2, 0xae3, .transparent),
  (0xafa, 0xb01, .transparent), (0xb3c, 0xb3c, .transparent), (0xb3f, 0xb3f, .transparent),
  (0xb41, 0xb44, .transparent), (0xb4d, 0xb56, .transparent), (0xb62, 0xb63, .transparent),
  (0xb82, 0xb82, .transparent), (0xbc0, 0xbc0, .transparent), (0xbcd, 0xbcd, .transparent),
  (0xc00, 0xc00, .transparent), (0xc04, 0xc04, .transparent), (0xc3c, 0xc3c, .transparent),
  (0xc3e, 0xc40, .transparent), (0xc46, 0xc56, .transparent), (0xc62, 0xc63, .transparent),
  (0xc81, 0xc81, .transparent), (0xcbc, 0xcbc, .transparent), (0xcbf, 0xcbf, .transparent),
  (0xcc6, 0xcc6, .transparent), (0xccc, 0xccd, .transparent), (0xce2, 0xce3, .transparent),
  (0xd00, 0xd01, .transparent), (0xd3b, 0xd3c, .transparent), (0xd41, 0xd44, .transparent),
  (0xd4d, 0xd4d, .transparent), (0xd62, 0xd63, .transparent), (0xd81, 0xd81, .transparent),
  (0xdca, 0xdca, .transparent), (0xdd2, 0xdd6, .transparent), (0xe31, 0xe31, .transparent),
  (0xe34, 0xe3a, .transparent), (0xe47, 0xe4e, .transparent), (0xeb1, 0xeb1, .transparent),
  (0xeb4, 0xebc, .transparent), (0xec8, 0xece, .transparent), (0xf18, 0xf19, .transparent),
  (0xf35, 0xf35, .transparent), (0xf37, 0xf37, .transparent), (0xf39, 0xf39, .transparent),
  (0xf71, 0xf7e, .transparent), (0xf80, 0xf84, .transparent), (0xf86, 0xf87, .transparent),
  (0xf8d, 0xfbc, .transparent), (0xfc6, 0xfc6, .transparent), (0x102d, 0x1030, .transparent),
  (0x1032, 0x1037, .transparent), (0x1039, 0x103a, .transparent), (0x103d, 0x103e, .transparent),
  (0x1058, 0x1059, .transparent), (0x105e, 0x1060, .transparent), (0x1071, 0x1074, .transparent),
  (0x1082, 0x1082, .transparent), (0x1085, 0x1086, .transparent), (0x108d, 0x108d, .transparent),
  (0x109d, 0x109d, .transparent), (0x135d, 0x135f, .transparent), (0x1712, 0x1714, .transparent),
  (0x1732, 0x1733, .transparent), (0x1752, 0x1753, .transparent), (0x1772, 0x1773, .transparent),
  (0x17b7, 0x17bd, .transparent), (0x17c6, 0x17c6, .transparent), (0x17c9, 0x17d3, .transparent),
  (0x17dd, 0x17dd, .transparent), (0x1807, 0x1807, .dual), (0x1820, 0x1878, .dual),
  (0x1885, 0x1886, .transparent), (0x1887, 0x18a8, .dual), (0x18a9, 0x18a9, .transparent),
  (0x18aa, 0x18aa, .dual), (0x1920, 0x1922, .transparent), (0x1927, 0x1928, .transparent),
  (0x1932, 0x1932, .transparent), (0x1939, 0x193b, .transparent), (0x1a17, 0x1a18, .transparent),
  (0x1a1b, 0x1a1b, .transparent), (0x1a56, 0x1a56, .transparent), (0x1a58, 0x1a60, .transparent),
  (0x1a62, 0x1a62, .transparent), (0x1a65, 0x1a6c, .transparent), (0x1a73, 0x1a7f, .transparent),
  (0x1ab0, 0x1b03, .transparent), (0x1b34, 0x1b34, .transparent), (0x1b36, 0x1b3a, .transparent),
  (0x1b3c, 0x1b3c, .transparent), (0x1b42, 0x1b42, .transparent), (0x1b6b, 0x1b73, .transparent),
  (0x1b80, 0x1b81, .transparent), (0x1ba2, 0x1ba5, .transparent), (0x1ba8, 0x1ba9, .transparent),
  (0x1bab, 0x1bad, .transparent), (0x1be6, 0x1be6, .transparent), (0x1be8, 0x1be9, .transparent),
  (0x1bed, 0x1bed, .transparent), (0x1bef, 0x1bf1, .transparent), (0x1c2c, 0x1c33, .transparent),
  (0x1c36, 0x1c37, .transparent), (0x1cd0, 0x1cd2, .transparent), (0x1cd4, 0x1ce0, .transparent),
  (0x1ce2, 0x1ce8, .transparent), (0x1ced, 0x1ced, .transparent), (0x1cf4, 0x1cf4, .transparent),
  (0x1cf8, 0x1cf9, .transparent), (0x1dc0, 0x1dff, .transparent), (0x20d0, 0x20f0, .transparent),
  (0x2cef, 0x2cf1, .transparent), (0x2d7f, 0x2d7f, .transparent), (0x2de0, 0x2dff, .transparent),
  (0x302a, 0x302d, .transparent), (0x3099, 0x309a, .transparent), (0xa66f, 0xa672, .transparent),
  (0xa674, 0xa67d, .transparent), (0xa69e, 0xa69f, .transparent), (0xa6f0, 0xa6f1, .transparent),
  (0xa802, 0xa802, .transparent), (0xa806, 0xa806, .transparent), (0xa80b, 0xa80b, .transparent),
  (0xa825, 0xa826, .transparent), (0xa82c, 0xa82c, .transparent), (0xa840, 0xa871, .dual),
  (0xa872, 0xa872, .left), (0xa8c4, 0xa8c5, .transparent), (0xa8e0, 0xa8f1, .transparent),
  (0xa8ff, 0xa8ff, .transparent), (0xa926, 0xa92d, .transparent), (0xa947, 0xa951, .transparent),
  (0xa980, 0xa982, .transparent), (0xa9b3, 0xa9b3, .transparent), (0xa9b6, 0xa9b9, .transparent),
  (0xa9bc, 0xa9bd, .transparent), (0xa9e5, 0xa9e5, .transparent), (0xaa29, 0xaa2e, .transparent),
  (0xaa31, 0xaa32, .transparent), (0xaa35, 0xaa36, .transparent), (0xaa43, 0xaa43, .transparent),
  (0xaa4c, 0xaa4c, .transparent), (0xaa7c, 0xaa7c, .transparent), (0xaab0, 0xaab0, .transparent),
  (0xaab2, 0xaab4, .transparent), (0xaab7, 0xaab8, .transparent), (0xaabe, 0xaabf, .transparent),
  (0xaac1, 0xaac1, .transparent), (0xaaec, 0xaaed, .transparent), (0xaaf6, 0xaaf6, .transparent),
  (0xabe5, 0xabe5, .transparent), (0xabe8, 0xabe8, .transparent), (0xabed, 0xabed, .transparent),
  (0xfb1e, 0xfb1e, .transparent), (0xfe20, 0xfe2f, .transparent), (0x101fd, 0x101fd, .transparent),
  (0x102e0, 0x102e0, .transparent), (0x10376, 0x1037a, .transparent),
  (0x10a01, 0x10a0f, .transparent), (0x10a38, 0x10a3f, .transparent), (0x10ac0, 0x10ac4, .dual),
  (0x10ac5, 0x10ac5, .right), (0x10ac7, 0x10ac7, .right), (0x10ac9, 0x10aca, .right),
  (0x10acd, 0x10acd, .left), (0x10ace, 0x10ad2, .right), (0x10ad3, 0x10ad6, .dual),
  (0x10ad7, 0x10ad7, .left), (0x10ad8, 0x10adc, .dual), (0x10add, 0x10add, .right),
  (0x10ade, 0x10ae0, .dual), (0x10ae1, 0x10ae1, .right), (0x10ae4, 0x10ae4, .right),
  (0x10ae5, 0x10ae6, .transparent), (0x10aeb, 0x10aee, .dual), (0x10aef, 0x10aef, .right),
  (0x10b80, 0x10b80, .dual), (0x10b81, 0x10b81, .right), (0x10b82, 0x10b82, .dual),
  (0x10b83, 0x10b85, .right), (0x10b86, 0x10b88, .dual), (0x10b89, 0x10b89, .right),
  (0x10b8a, 0x10b8b, .dual), (0x10b8c, 0x10b8c, .right), (0x10b8d, 0x10b8d, .dual),
  (0x10b8e, 0x10b8f, .right), (0x10b90, 0x10b90, .dual), (0x10b91, 0x10b91, .right),
  (0x10ba9, 0x10bac, .right), (0x10bad, 0x10bae, .dual), (0x10d00, 0x10d00, .left),
  (0x10d01, 0x10d21, .dual), (0x10d22, 0x10d22, .right), (0x10d23, 0x10d23, .dual),
  (0x10d24, 0x10d27, .transparent), (0x10d69, 0x10d6d, .transparent),
  (0x10eab, 0x10eac, .transparent), (0x10ec2, 0x10ec2, .right), (0x10ec3, 0x10ec4, .dual),
  (0x10ec6, 0x10ec7, .dual), (0x10efa, 0x10eff, .transparent), (0x10f30, 0x10f32, .dual),
  (0x10f33, 0x10f33, .right), (0x10f34, 0x10f44, .dual), (0x10f46, 0x10f50, .transparent),
  (0x10f51, 0x10f53, .dual), (0x10f54, 0x10f54, .right), (0x10f70, 0x10f73, .dual),
  (0x10f74, 0x10f75, .right), (0x10f76, 0x10f81, .dual), (0x10f82, 0x10f85, .transparent),
  (0x10fb0, 0x10fb0, .dual), (0x10fb2, 0x10fb3, .dual), (0x10fb4, 0x10fb6, .right),
  (0x10fb8, 0x10fb8, .dual), (0x10fb9, 0x10fba, .right), (0x10fbb, 0x10fbc, .dual),
  (0x10fbd, 0x10fbd, .right), (0x10fbe, 0x10fbf, .dual), (0x10fc1, 0x10fc1, .dual),
  (0x10fc2, 0x10fc3, .right), (0x10fc4, 0x10fc4, .dual), (0x10fc9, 0x10fc9, .right),
  (0x10fca, 0x10fca, .dual), (0x10fcb, 0x10fcb, .left), (0x11001, 0x11001, .transparent),
  (0x11038, 0x11046, .transparent), (0x11070, 0x11070, .transparent),
  (0x11073, 0x11074, .transparent), (0x1107f, 0x11081, .transparent),
  (0x110b3, 0x110b6, .transparent), (0x110b9, 0x110ba, .transparent),
  (0x110c2, 0x110c2, .transparent), (0x11100, 0x11102, .transparent),
  (0x11127, 0x1112b, .transparent), (0x1112d, 0x11134, .transparent),
  (0x11173, 0x11173, .transparent), (0x11180, 0x11181, .transparent),
  (0x111b6, 0x111be, .transparent), (0x111c9, 0x111cc, .transparent),
  (0x111cf, 0x111cf, .transparent), (0x1122f, 0x11231, .transparent),
  (0x11234, 0x11234, .transparent), (0x11236, 0x11237, .transparent),
  (0x1123e, 0x1123e, .transparent), (0x11241, 0x11241, .transparent),
  (0x112df, 0x112df, .transparent), (0x112e3, 0x112ea, .transparent),
  (0x11300, 0x11301, .transparent), (0x1133b, 0x1133c, .transparent),
  (0x11340, 0x11340, .transparent), (0x11366, 0x11374, .transparent),
  (0x113bb, 0x113c0, .transparent), (0x113ce, 0x113ce, .transparent),
  (0x113d0, 0x113d0, .transparent), (0x113d2, 0x113d2, .transparent),
  (0x113e1, 0x113e2, .transparent), (0x11438, 0x1143f, .transparent),
  (0x11442, 0x11444, .transparent), (0x11446, 0x11446, .transparent),
  (0x1145e, 0x1145e, .transparent), (0x114b3, 0x114b8, .transparent),
  (0x114ba, 0x114ba, .transparent), (0x114bf, 0x114c0, .transparent),
  (0x114c2, 0x114c3, .transparent), (0x115b2, 0x115b5, .transparent),
  (0x115bc, 0x115bd, .transparent), (0x115bf, 0x115c0, .transparent),
  (0x115dc, 0x115dd, .transparent), (0x11633, 0x1163a, .transparent),
  (0x1163d, 0x1163d, .transparent), (0x1163f, 0x11640, .transparent),
  (0x116ab, 0x116ab, .transparent), (0x116ad, 0x116ad, .transparent),
  (0x116b0, 0x116b5, .transparent), (0x116b7, 0x116b7, .transparent),
  (0x1171d, 0x1171d, .transparent), (0x1171f, 0x1171f, .transparent),
  (0x11722, 0x11725, .transparent), (0x11727, 0x1172b, .transparent),
  (0x1182f, 0x11837, .transparent), (0x11839, 0x1183a, .transparent),
  (0x1193b, 0x1193c, .transparent), (0x1193e, 0x1193e, .transparent),
  (0x11943, 0x11943, .transparent), (0x119d4, 0x119db, .transparent),
  (0x119e0, 0x119e0, .transparent), (0x11a01, 0x11a0a, .transparent),
  (0x11a33, 0x11a38, .transparent), (0x11a3b, 0x11a3e, .transparent),
  (0x11a47, 0x11a47, .transparent), (0x11a51, 0x11a56, .transparent),
  (0x11a59, 0x11a5b, .transparent), (0x11a8a, 0x11a96, .transparent),
  (0x11a98, 0x11a99, .transparent), (0x11b60, 0x11b60, .transparent),
  (0x11b62, 0x11b64, .transparent), (0x11b66, 0x11b66, .transparent),
  (0x11c30, 0x11c3d, .transparent), (0x11c3f, 0x11c3f, .transparent),
  (0x11c92, 0x11ca7, .transparent), (0x11caa, 0x11cb0, .transparent),
  (0x11cb2, 0x11cb3, .transparent), (0x11cb5, 0x11cb6, .transparent),
  (0x11d31, 0x11d45, .transparent), (0x11d47, 0x11d47, .transparent),
  (0x11d90, 0x11d91, .transparent), (0x11d95, 0x11d95, .transparent),
  (0x11d97, 0x11d97, .transparent), (0x11ef3, 0x11ef4, .transparent),
  (0x11f00, 0x11f01, .transparent), (0x11f36, 0x11f3a, .transparent),
  (0x11f40, 0x11f40, .transparent), (0x11f42, 0x11f42, .transparent),
  (0x11f5a, 0x11f5a, .transparent), (0x13440, 0x13440, .transparent),
  (0x13447, 0x13455, .transparent), (0x1611e, 0x16129, .transparent),
  (0x1612d, 0x1612f, .transparent), (0x16af0, 0x16af4, .transparent),
  (0x16b30, 0x16b36, .transparent), (0x16f4f, 0x16f4f, .transparent),
  (0x16f8f, 0x16f92, .transparent), (0x16fe4, 0x16fe4, .transparent),
  (0x1bc9d, 0x1bc9e, .transparent), (0x1cf00, 0x1cf46, .transparent),
  (0x1d167, 0x1d169, .transparent), (0x1d17b, 0x1d182, .transparent),
  (0x1d185, 0x1d18b, .transparent), (0x1d1aa, 0x1d1ad, .transparent),
  (0x1d242, 0x1d244, .transparent), (0x1da00, 0x1da36, .transparent),
  (0x1da3b, 0x1da6c, .transparent), (0x1da75, 0x1da75, .transparent),
  (0x1da84, 0x1da84, .transparent), (0x1da9b, 0x1daaf, .transparent),
  (0x1e000, 0x1e08f, .transparent), (0x1e130, 0x1e136, .transparent),
  (0x1e2ae, 0x1e2ae, .transparent), (0x1e2ec, 0x1e2ef, .transparent),
  (0x1e4ec, 0x1e4ef, .transparent), (0x1e5ee, 0x1e5ef, .transparent),
  (0x1e6e3, 0x1e6e3, .transparent), (0x1e6e6, 0x1e6e6, .transparent),
  (0x1e6ee, 0x1e6ef, .transparent), (0x1e6f5, 0x1e6f5, .transparent),
  (0x1e8d0, 0x1e8d6, .transparent), (0x1e922, 0x1e943, .dual), (0x1e944, 0x1e94b, .transparent)]

end FeedReader.Url
