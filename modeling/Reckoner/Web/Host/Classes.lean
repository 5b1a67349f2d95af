import Reckoner.Text.CodeSet

/-!
# Code points in host names

The properties of code points that decide whether a host name is one: what leaves nothing in it,
what stands for an ASCII character, what no label may hold, and in which direction letters are
written. Classes are listed by their boundaries, like the other classes of characters; the
properties are those of version 3.2 of the Unicode character database, by which host names are
prepared.
-/

namespace Reckoner

namespace Host

/-- Boundaries of the code points that leave nothing. -/
def ignoredBoundaries : List Nat := [
  0xad, 0xae, 0x34f, 0x350, 0x1806, 0x1807, 0x180b, 0x180e, 0x200b, 0x200e, 0x2060, 0x2061, 0xfe00,
  0xfe10, 0xfeff, 0xff00]

/-- Runs of code points that stand for consecutive ASCII characters: the first of the run, how many
there are, and the character of the first. -/
def asciiRuns : List (Nat × Nat × Nat) := [
  (0xa0, 1, 0x20), (0xaa, 1, 0x61), (0xb2, 2, 0x32), (0xb9, 1, 0x31), (0xba, 1, 0x6f),
  (0x17f, 1, 0x73), (0x2b0, 1, 0x68), (0x2b2, 1, 0x6a), (0x2b3, 1, 0x72), (0x2b7, 1, 0x77),
  (0x2b8, 1, 0x79), (0x2e1, 1, 0x6c), (0x2e2, 1, 0x73), (0x2e3, 1, 0x78), (0x37e, 1, 0x3b),
  (0x1fef, 1, 0x60), (0x2000, 1, 0x20), (0x2001, 1, 0x20), (0x2002, 1, 0x20), (0x2003, 1, 0x20),
  (0x2004, 1, 0x20), (0x2005, 1, 0x20), (0x2006, 1, 0x20), (0x2007, 1, 0x20), (0x2008, 1, 0x20),
  (0x2009, 1, 0x20), (0x200a, 1, 0x20), (0x2024, 1, 0x2e), (0x202f, 1, 0x20), (0x205f, 1, 0x20),
  (0x2070, 1, 0x30), (0x2071, 1, 0x69), (0x2074, 6, 0x34), (0x207a, 1, 0x2b), (0x207c, 1, 0x3d),
  (0x207d, 2, 0x28), (0x207f, 1, 0x6e), (0x2080, 10, 0x30), (0x208a, 1, 0x2b), (0x208c, 1, 0x3d),
  (0x208d, 2, 0x28), (0x2102, 1, 0x63), (0x210a, 2, 0x67), (0x210c, 1, 0x68), (0x210d, 1, 0x68),
  (0x210e, 1, 0x68), (0x2110, 1, 0x69), (0x2111, 1, 0x69), (0x2112, 1, 0x6c), (0x2113, 1, 0x6c),
  (0x2115, 1, 0x6e), (0x2119, 3, 0x70), (0x211c, 1, 0x72), (0x211d, 1, 0x72), (0x2124, 1, 0x7a),
  (0x2128, 1, 0x7a), (0x212a, 1, 0x6b), (0x212c, 2, 0x62), (0x212f, 1, 0x65), (0x2130, 2, 0x65),
  (0x2133, 1, 0x6d), (0x2134, 1, 0x6f), (0x2139, 1, 0x69), (0x2145, 1, 0x64), (0x2146, 2, 0x64),
  (0x2148, 2, 0x69), (0x2160, 1, 0x69), (0x2164, 1, 0x76), (0x2169, 1, 0x78), (0x216c, 1, 0x6c),
  (0x216d, 2, 0x63), (0x216f, 1, 0x6d), (0x2170, 1, 0x69), (0x2174, 1, 0x76), (0x2179, 1, 0x78),
  (0x217c, 1, 0x6c), (0x217d, 2, 0x63), (0x217f, 1, 0x6d), (0x2460, 9, 0x31), (0x24b6, 26, 0x61),
  (0x24d0, 26, 0x61), (0x24ea, 1, 0x30), (0x3000, 1, 0x20), (0xfb29, 1, 0x2b), (0xfe33, 1, 0x5f),
  (0xfe34, 1, 0x5f), (0xfe35, 2, 0x28), (0xfe37, 1, 0x7b), (0xfe38, 1, 0x7d), (0xfe4d, 1, 0x5f),
  (0xfe4e, 1, 0x5f), (0xfe4f, 1, 0x5f), (0xfe50, 1, 0x2c), (0xfe52, 1, 0x2e), (0xfe54, 1, 0x3b),
  (0xfe55, 1, 0x3a), (0xfe56, 1, 0x3f), (0xfe57, 1, 0x21), (0xfe59, 2, 0x28), (0xfe5b, 1, 0x7b),
  (0xfe5c, 1, 0x7d), (0xfe5f, 1, 0x23), (0xfe60, 1, 0x26), (0xfe61, 2, 0x2a), (0xfe63, 1, 0x2d),
  (0xfe64, 1, 0x3c), (0xfe65, 1, 0x3e), (0xfe66, 1, 0x3d), (0xfe68, 1, 0x5c), (0xfe69, 2, 0x24),
  (0xfe6b, 1, 0x40), (0xff01, 32, 0x21), (0xff21, 26, 0x61), (0xff3b, 36, 0x5b),
  (0x1d400, 26, 0x61), (0x1d41a, 26, 0x61), (0x1d434, 26, 0x61), (0x1d44e, 7, 0x61),
  (0x1d456, 18, 0x69), (0x1d468, 26, 0x61), (0x1d482, 26, 0x61), (0x1d49c, 1, 0x61),
  (0x1d49e, 2, 0x63), (0x1d4a2, 1, 0x67), (0x1d4a5, 2, 0x6a), (0x1d4a9, 4, 0x6e),
  (0x1d4ae, 8, 0x73), (0x1d4b6, 4, 0x61), (0x1d4bb, 1, 0x66), (0x1d4bd, 4, 0x68),
  (0x1d4c2, 2, 0x6d), (0x1d4c5, 11, 0x70), (0x1d4d0, 26, 0x61), (0x1d4ea, 26, 0x61),
  (0x1d504, 2, 0x61), (0x1d507, 4, 0x64), (0x1d50d, 8, 0x6a), (0x1d516, 7, 0x73),
  (0x1d51e, 26, 0x61), (0x1d538, 2, 0x61), (0x1d53b, 4, 0x64), (0x1d540, 5, 0x69),
  (0x1d546, 1, 0x6f), (0x1d54a, 7, 0x73), (0x1d552, 26, 0x61), (0x1d56c, 26, 0x61),
  (0x1d586, 26, 0x61), (0x1d5a0, 26, 0x61), (0x1d5ba, 26, 0x61), (0x1d5d4, 26, 0x61),
  (0x1d5ee, 26, 0x61), (0x1d608, 26, 0x61), (0x1d622, 26, 0x61), (0x1d63c, 26, 0x61),
  (0x1d656, 26, 0x61), (0x1d670, 26, 0x61), (0x1d68a, 26, 0x61), (0x1d7ce, 10, 0x30),
  (0x1d7d8, 10, 0x30), (0x1d7e2, 10, 0x30), (0x1d7ec, 10, 0x30), (0x1d7f6, 10, 0x30)]

/-- Code points that stand for several ASCII characters. -/
def asciiTexts : List (Nat × String) := [
  (0xdf, "ss"), (0x132, "ij"), (0x133, "ij"), (0x1c7, "lj"), (0x1c8, "lj"), (0x1c9, "lj"),
  (0x1ca, "nj"), (0x1cb, "nj"), (0x1cc, "nj"), (0x1f1, "dz"), (0x1f2, "dz"), (0x1f3, "dz"),
  (0x1e9e, "ss"), (0x2025, ".."), (0x2026, "..."), (0x203c, "!!"), (0x2047, "??"), (0x2048, "?!"),
  (0x2049, "!?"), (0x20a8, "rs"), (0x2100, "a/c"), (0x2101, "a/s"), (0x2105, "c/o"),
  (0x2106, "c/u"), (0x2116, "no"), (0x2120, "sm"), (0x2121, "tel"), (0x2122, "tm"), (0x2161, "ii"),
  (0x2162, "iii"), (0x2163, "iv"), (0x2165, "vi"), (0x2166, "vii"), (0x2167, "viii"),
  (0x2168, "ix"), (0x216a, "xi"), (0x216b, "xii"), (0x2171, "ii"), (0x2172, "iii"), (0x2173, "iv"),
  (0x2175, "vi"), (0x2176, "vii"), (0x2177, "viii"), (0x2178, "ix"), (0x217a, "xi"),
  (0x217b, "xii"), (0x2469, "10"), (0x246a, "11"), (0x246b, "12"), (0x246c, "13"), (0x246d, "14"),
  (0x246e, "15"), (0x246f, "16"), (0x2470, "17"), (0x2471, "18"), (0x2472, "19"), (0x2473, "20"),
  (0x2474, "(1)"), (0x2475, "(2)"), (0x2476, "(3)"), (0x2477, "(4)"), (0x2478, "(5)"),
  (0x2479, "(6)"), (0x247a, "(7)"), (0x247b, "(8)"), (0x247c, "(9)"), (0x247d, "(10)"),
  (0x247e, "(11)"), (0x247f, "(12)"), (0x2480, "(13)"), (0x2481, "(14)"), (0x2482, "(15)"),
  (0x2483, "(16)"), (0x2484, "(17)"), (0x2485, "(18)"), (0x2486, "(19)"), (0x2487, "(20)"),
  (0x2488, "1."), (0x2489, "2."), (0x248a, "3."), (0x248b, "4."), (0x248c, "5."), (0x248d, "6."),
  (0x248e, "7."), (0x248f, "8."), (0x2490, "9."), (0x2491, "10."), (0x2492, "11."),
  (0x2493, "12."), (0x2494, "13."), (0x2495, "14."), (0x2496, "15."), (0x2497, "16."),
  (0x2498, "17."), (0x2499, "18."), (0x249a, "19."), (0x249b, "20."), (0x249c, "(a)"),
  (0x249d, "(b)"), (0x249e, "(c)"), (0x249f, "(d)"), (0x24a0, "(e)"), (0x24a1, "(f)"),
  (0x24a2, "(g)"), (0x24a3, "(h)"), (0x24a4, "(i)"), (0x24a5, "(j)"), (0x24a6, "(k)"),
  (0x24a7, "(l)"), (0x24a8, "(m)"), (0x24a9, "(n)"), (0x24aa, "(o)"), (0x24ab, "(p)"),
  (0x24ac, "(q)"), (0x24ad, "(r)"), (0x24ae, "(s)"), (0x24af, "(t)"), (0x24b0, "(u)"),
  (0x24b1, "(v)"), (0x24b2, "(w)"), (0x24b3, "(x)"), (0x24b4, "(y)"), (0x24b5, "(z)"),
  (0x2a74, "::="), (0x2a75, "=="), (0x2a76, "==="), (0x3251, "21"), (0x3252, "22"), (0x3253, "23"),
  (0x3254, "24"), (0x3255, "25"), (0x3256, "26"), (0x3257, "27"), (0x3258, "28"), (0x3259, "29"),
  (0x325a, "30"), (0x325b, "31"), (0x325c, "32"), (0x325d, "33"), (0x325e, "34"), (0x325f, "35"),
  (0x32b1, "36"), (0x32b2, "37"), (0x32b3, "38"), (0x32b4, "39"), (0x32b5, "40"), (0x32b6, "41"),
  (0x32b7, "42"), (0x32b8, "43"), (0x32b9, "44"), (0x32ba, "45"), (0x32bb, "46"), (0x32bc, "47"),
  (0x32bd, "48"), (0x32be, "49"), (0x32bf, "50"), (0x3371, "hpa"), (0x3372, "da"), (0x3373, "au"),
  (0x3374, "bar"), (0x3375, "ov"), (0x3376, "pc"), (0x3380, "pa"), (0x3381, "na"), (0x3383, "ma"),
  (0x3384, "ka"), (0x3385, "kb"), (0x3386, "mb"), (0x3387, "gb"), (0x3388, "cal"),
  (0x3389, "kcal"), (0x338a, "pf"), (0x338b, "nf"), (0x338e, "mg"), (0x338f, "kg"), (0x3390, "hz"),
  (0x3391, "khz"), (0x3392, "mhz"), (0x3393, "ghz"), (0x3394, "thz"), (0x3396, "ml"),
  (0x3397, "dl"), (0x3398, "kl"), (0x3399, "fm"), (0x339a, "nm"), (0x339c, "mm"), (0x339d, "cm"),
  (0x339e, "km"), (0x339f, "mm2"), (0x33a0, "cm2"), (0x33a1, "m2"), (0x33a2, "km2"),
  (0x33a3, "mm3"), (0x33a4, "cm3"), (0x33a5, "m3"), (0x33a6, "km3"), (0x33a9, "pa"),
  (0x33aa, "kpa"), (0x33ab, "mpa"), (0x33ac, "gpa"), (0x33ad, "rad"), (0x33b0, "ps"),
  (0x33b1, "ns"), (0x33b3, "ms"), (0x33b4, "pv"), (0x33b5, "nv"), (0x33b7, "mv"), (0x33b8, "kv"),
  (0x33b9, "mv"), (0x33ba, "pw"), (0x33bb, "nw"), (0x33bd, "mw"), (0x33be, "kw"), (0x33bf, "mw"),
  (0x33c2, "a.m."), (0x33c3, "bq"), (0x33c4, "cc"), (0x33c5, "cd"), (0x33c7, "co."),
  (0x33c8, "db"), (0x33c9, "gy"), (0x33ca, "ha"), (0x33cb, "hp"), (0x33cc, "in"), (0x33cd, "kk"),
  (0x33ce, "km"), (0x33cf, "kt"), (0x33d0, "lm"), (0x33d1, "ln"), (0x33d2, "log"), (0x33d3, "lx"),
  (0x33d4, "mb"), (0x33d5, "mil"), (0x33d6, "mol"), (0x33d7, "ph"), (0x33d8, "p.m."),
  (0x33d9, "ppm"), (0x33da, "pr"), (0x33db, "sr"), (0x33dc, "sv"), (0x33dd, "wb"), (0xfb00, "ff"),
  (0xfb01, "fi"), (0xfb02, "fl"), (0xfb03, "ffi"), (0xfb04, "ffl"), (0xfb05, "st"), (0xfb06, "st"),
  (0xfe30, "..")]

/-- Boundaries of the code points that no label may hold: spaces, controls, private and special
ones, halves of surrogate pairs, and those that are no characters. -/
def refusedBoundaries : List Nat := [
  0x80, 0xa0, 0x6dd, 0x6de, 0x70f, 0x710, 0x1680, 0x1681, 0x180e, 0x180f, 0x200e, 0x2010, 0x2028,
  0x202f, 0x2061, 0x2064, 0x206a, 0x2070, 0x2ff0, 0x2ffc, 0xd800, 0xf900, 0xfdd0, 0xfdf0, 0xfff9,
  0x10000, 0x1d173, 0x1d17b, 0x1fffe, 0x20000, 0x2fffe, 0x30000, 0x3fffe, 0x40000, 0x4fffe,
  0x50000, 0x5fffe, 0x60000, 0x6fffe, 0x70000, 0x7fffe, 0x80000, 0x8fffe, 0x90000, 0x9fffe,
  0xa0000, 0xafffe, 0xb0000, 0xbfffe, 0xc0000, 0xcfffe, 0xd0000, 0xdfffe, 0xe0000, 0xe0001,
  0xe0002, 0xe0020, 0xe0080, 0xefffe, 0x110000]

/-- Boundaries of the letters that are written from right to left. -/
def rightToLeftBoundaries : List Nat := [
  0x5be, 0x5bf, 0x5c0, 0x5c1, 0x5c3, 0x5c4, 0x5d0, 0x5eb, 0x5f0, 0x5f5, 0x61b, 0x61c, 0x61f, 0x620,
  0x621, 0x63b, 0x640, 0x64b, 0x66d, 0x670, 0x671, 0x6d6, 0x6dd, 0x6de, 0x6e5, 0x6e7, 0x6fa, 0x6ff,
  0x700, 0x70e, 0x710, 0x711, 0x712, 0x72d, 0x780, 0x7a6, 0x7b1, 0x7b2, 0x200f, 0x2010, 0x2135,
  0x2139, 0xfb1d, 0xfb1e, 0xfb1f, 0xfb29, 0xfb2a, 0xfb37, 0xfb38, 0xfb3d, 0xfb3e, 0xfb3f, 0xfb40,
  0xfb42, 0xfb43, 0xfb45, 0xfb46, 0xfbb2, 0xfbd3, 0xfc5e, 0xfc64, 0xfd3e, 0xfd50, 0xfd90, 0xfd92,
  0xfdc8, 0xfdf0, 0xfdfd, 0xfe71, 0xfe72, 0xfe73, 0xfe74, 0xfe77, 0xfe78, 0xfe79, 0xfe7a, 0xfe7b,
  0xfe7c, 0xfe7d, 0xfe7e, 0xfe7f, 0xfefd]

/-- Boundaries, beyond ASCII, of the letters that are written from left to right. -/
def leftToRightBoundaries : List Nat := [
  0xb5, 0xb6, 0xc0, 0xd7, 0xd8, 0xdf, 0xe0, 0xf7, 0xf8, 0x132, 0x134, 0x17f, 0x180, 0x1c7, 0x1cd,
  0x1f1, 0x1f4, 0x221, 0x222, 0x234, 0x23d, 0x23e, 0x243, 0x246, 0x250, 0x2ae, 0x2b1, 0x2b2, 0x2b4,
  0x2b7, 0x2bb, 0x2c2, 0x2d0, 0x2d2, 0x2e0, 0x2e1, 0x2e4, 0x2e5, 0x2ee, 0x2ef, 0x345, 0x346, 0x37a,
  0x37b, 0x37f, 0x380, 0x386, 0x387, 0x388, 0x38b, 0x38c, 0x38d, 0x38e, 0x3a2, 0x3a3, 0x3f6, 0x3f9,
  0x3fa, 0x400, 0x483, 0x48a, 0x4c0, 0x4c1, 0x4cf, 0x4d0, 0x4f6, 0x4f8, 0x4fa, 0x500, 0x510, 0x531,
  0x557, 0x559, 0x560, 0x561, 0x588, 0x589, 0x58a, 0x903, 0x904, 0x905, 0x93a, 0x93d, 0x941, 0x949,
  0x94d, 0x950, 0x951, 0x958, 0x962, 0x964, 0x971, 0x982, 0x984, 0x985, 0x98d, 0x98f, 0x991, 0x993,
  0x9a9, 0x9aa, 0x9b1, 0x9b2, 0x9b3, 0x9b6, 0x9ba, 0x9be, 0x9c1, 0x9c7, 0x9c9, 0x9cb, 0x9cd, 0x9d7,
  0x9d8, 0x9dc, 0x9de, 0x9df, 0x9e2, 0x9e6, 0x9f2, 0x9f4, 0x9fb, 0xa05, 0xa0b, 0xa0f, 0xa11, 0xa13,
  0xa29, 0xa2a, 0xa31, 0xa32, 0xa34, 0xa35, 0xa37, 0xa38, 0xa3a, 0xa3e, 0xa41, 0xa59, 0xa5d, 0xa5e,
  0xa5f, 0xa66, 0xa70, 0xa72, 0xa75, 0xa83, 0xa84, 0xa85, 0xa8c, 0xa8d, 0xa8e, 0xa8f, 0xa92, 0xa93,
  0xaa9, 0xaaa, 0xab1, 0xab2, 0xab4, 0xab5, 0xaba, 0xabd, 0xac1, 0xac9, 0xaca, 0xacb, 0xacd, 0xad0,
  0xad1, 0xae0, 0xae1, 0xae6, 0xaf0, 0xb02, 0xb04, 0xb05, 0xb0d, 0xb0f, 0xb11, 0xb13, 0xb29, 0xb2a,
  0xb31, 0xb32, 0xb34, 0xb36, 0xb3a, 0xb3d, 0xb3f, 0xb40, 0xb41, 0xb47, 0xb49, 0xb4b, 0xb4d, 0xb57,
  0xb58, 0xb5c, 0xb5e, 0xb5f, 0xb62, 0xb66, 0xb71, 0xb83, 0xb84, 0xb85, 0xb8b, 0xb8e, 0xb91, 0xb92,
  0xb96, 0xb99, 0xb9b, 0xb9c, 0xb9d, 0xb9e, 0xba0, 0xba3, 0xba5, 0xba8, 0xbab, 0xbae, 0xbb6, 0xbb7,
  0xbba, 0xbbe, 0xbc0, 0xbc1, 0xbc3, 0xbc6, 0xbc9, 0xbca, 0xbcd, 0xbd7, 0xbd8, 0xbe7, 0xbf3, 0xc01,
  0xc04, 0xc05, 0xc0d, 0xc0e, 0xc11, 0xc12, 0xc29, 0xc2a, 0xc34, 0xc35, 0xc3a, 0xc41, 0xc45, 0xc60,
  0xc62, 0xc66, 0xc70, 0xc82, 0xc84, 0xc85, 0xc8d, 0xc8e, 0xc91, 0xc92, 0xca9, 0xcaa, 0xcb4, 0xcb5,
  0xcba, 0xcbe, 0xcbf, 0xcc0, 0xcc5, 0xcc7, 0xcc9, 0xcca, 0xccc, 0xcd5, 0xcd7, 0xcde, 0xcdf, 0xce0,
  0xce2, 0xce6, 0xcf0, 0xd02, 0xd04, 0xd05, 0xd0d, 0xd0e, 0xd11, 0xd12, 0xd29, 0xd2a, 0xd3a, 0xd3e,
  0xd41, 0xd46, 0xd49, 0xd4a, 0xd4d, 0xd57, 0xd58, 0xd60, 0xd62, 0xd66, 0xd70, 0xd82, 0xd84, 0xd85,
  0xd97, 0xd9a, 0xdb2, 0xdb3, 0xdbc, 0xdbd, 0xdbe, 0xdc0, 0xdc7, 0xdcf, 0xdd2, 0xdd8, 0xde0, 0xdf2,
  0xdf5, 0xe01, 0xe31, 0xe32, 0xe34, 0xe40, 0xe47, 0xe4f, 0xe5c, 0xe81, 0xe83, 0xe84, 0xe85, 0xe87,
  0xe89, 0xe8a, 0xe8b, 0xe8d, 0xe8e, 0xe94, 0xe98, 0xe99, 0xea0, 0xea1, 0xea4, 0xea5, 0xea6, 0xea7,
  0xea8, 0xeaa, 0xeac, 0xead, 0xeb1, 0xeb2, 0xeb4, 0xebd, 0xebe, 0xec0, 0xec5, 0xec6, 0xec7, 0xed0,
  0xeda, 0xedc, 0xede, 0xf00, 0xf18, 0xf1a, 0xf35, 0xf36, 0xf37, 0xf38, 0xf39, 0xf3e, 0xf48, 0xf49,
  0xf6b, 0xf7f, 0xf80, 0xf85, 0xf86, 0xf88, 0xf8c, 0xfbe, 0xfc6, 0xfc7, 0xfcd, 0xfcf, 0xfd0,
  0x1000, 0x1022, 0x1023, 0x1028, 0x1029, 0x102b, 0x102c, 0x102d, 0x1031, 0x1032, 0x1038, 0x1039,
  0x1040, 0x1058, 0x10d0, 0x10f9, 0x10fb, 0x10fc, 0x1100, 0x115a, 0x115f, 0x11a3, 0x11a8, 0x11fa,
  0x1200, 0x1207, 0x1208, 0x1247, 0x1248, 0x1249, 0x124a, 0x124e, 0x1250, 0x1257, 0x1258, 0x1259,
  0x125a, 0x125e, 0x1260, 0x1287, 0x1288, 0x1289, 0x128a, 0x128e, 0x1290, 0x12af, 0x12b0, 0x12b1,
  0x12b2, 0x12b6, 0x12b8, 0x12bf, 0x12c0, 0x12c1, 0x12c2, 0x12c6, 0x12c8, 0x12cf, 0x12d0, 0x12d7,
  0x12d8, 0x12ef, 0x12f0, 0x130f, 0x1310, 0x1311, 0x1312, 0x1316, 0x1318, 0x131f, 0x1320, 0x1347,
  0x1348, 0x135b, 0x1361, 0x137d, 0x1401, 0x1677, 0x1681, 0x169b, 0x16a0, 0x16f1, 0x1700, 0x170d,
  0x170e, 0x1712, 0x1720, 0x1732, 0x1735, 0x1737, 0x1740, 0x1752, 0x1760, 0x176d, 0x176e, 0x1771,
  0x1780, 0x17b7, 0x17be, 0x17c6, 0x17c7, 0x17c9, 0x17d4, 0x17db, 0x17dc, 0x17dd, 0x17e0, 0x17ea,
  0x1810, 0x181a, 0x1820, 0x1878, 0x1880, 0x18a9, 0x1c90, 0x1cb9, 0x1e00, 0x1e9c, 0x1ea0, 0x1efa,
  0x1f00, 0x1f16, 0x1f18, 0x1f1e, 0x1f20, 0x1f46, 0x1f48, 0x1f4e, 0x1f50, 0x1f58, 0x1f59, 0x1f5a,
  0x1f5b, 0x1f5c, 0x1f5d, 0x1f5e, 0x1f5f, 0x1f7e, 0x1f80, 0x1fb5, 0x1fb6, 0x1fbd, 0x1fbe, 0x1fbf,
  0x1fc2, 0x1fc5, 0x1fc6, 0x1fcd, 0x1fd0, 0x1fd4, 0x1fd6, 0x1fdc, 0x1fe0, 0x1fed, 0x1ff2, 0x1ff5,
  0x1ff6, 0x1ffd, 0x200e, 0x200f, 0x2103, 0x2104, 0x2107, 0x2108, 0x2109, 0x210a, 0x210f, 0x2110,
  0x2126, 0x2127, 0x212b, 0x212c, 0x213d, 0x2140, 0x2180, 0x2183, 0x2336, 0x237b, 0x2395, 0x2396,
  0x2c62, 0x2c63, 0x2c64, 0x2c65, 0x2c6d, 0x2c71, 0x2e9f, 0x2ea0, 0x2ef3, 0x2ef4, 0x2f00, 0x2fd6,
  0x3005, 0x3008, 0x3021, 0x302a, 0x3031, 0x3036, 0x3038, 0x303d, 0x3041, 0x3097, 0x309d, 0x30a0,
  0x30a1, 0x30fb, 0x30fc, 0x3100, 0x3105, 0x312d, 0x3131, 0x318f, 0x3190, 0x31b8, 0x31f0, 0x321d,
  0x3220, 0x3244, 0x3260, 0x327c, 0x327f, 0x32b1, 0x32c0, 0x32cc, 0x32d0, 0x32ff, 0x3300, 0x3371,
  0x337b, 0x3380, 0x3382, 0x3383, 0x338c, 0x338e, 0x3395, 0x3396, 0x339b, 0x339c, 0x33a7, 0x33a9,
  0x33ae, 0x33b0, 0x33b2, 0x33b3, 0x33b6, 0x33b7, 0x33bc, 0x33bd, 0x33c0, 0x33c2, 0x33c6, 0x33c7,
  0x33e0, 0x33ff, 0x3400, 0x4db6, 0x4e00, 0x9fa6, 0xa000, 0xa48d, 0xa78d, 0xa78e, 0xa7aa, 0xa7af,
  0xa7b0, 0xa7b3, 0xa7c5, 0xa7c6, 0xac00, 0xd7a4, 0xd800, 0xfa2e, 0xfa30, 0xfa6b, 0xfb13, 0xfb18,
  0xff66, 0xff9e, 0xffa0, 0xffbf, 0xffc2, 0xffc8, 0xffca, 0xffd0, 0xffd2, 0xffd8, 0xffda, 0xffdd,
  0x10300, 0x1031f, 0x10320, 0x10324, 0x10330, 0x1034b, 0x10400, 0x10426, 0x10428, 0x1044e,
  0x1d000, 0x1d0f6, 0x1d100, 0x1d127, 0x1d12a, 0x1d167, 0x1d16a, 0x1d173, 0x1d183, 0x1d185,
  0x1d18c, 0x1d1aa, 0x1d1ae, 0x1d1de, 0x1d6a8, 0x1d6c1, 0x1d6c2, 0x1d6db, 0x1d6dc, 0x1d6fb,
  0x1d6fc, 0x1d715, 0x1d716, 0x1d735, 0x1d736, 0x1d74f, 0x1d750, 0x1d76f, 0x1d770, 0x1d789,
  0x1d78a, 0x1d7a9, 0x1d7aa, 0x1d7c3, 0x1d7c4, 0x1d7ca, 0x20000, 0x2a6d7, 0x2f800, 0x2fa1e,
  0xf0000, 0xffffe, 0x100000, 0x10fffe]

/-- The code points that stand for one of the characters that end or divide a host, alone or among
others. -/
def dividers : List Nat := [
  0x2047, 0x2048, 0x2049, 0x2100, 0x2101, 0x2105, 0x2106, 0x2a74, 0xfe13, 0xfe16, 0xfe55, 0xfe56,
  0xfe5f, 0xfe6b, 0xff03, 0xff0f, 0xff1a, 0xff1f, 0xff20]

/-- Whether a code point leaves nothing in a host name. -/
def isIgnored (c : CodePoint) : Bool := Text.inClass ignoredBoundaries c

/-- The ASCII character that a code point beyond ASCII stands for, if it stands for one. -/
def asciiImage? (c : CodePoint) : Option CodePoint :=
  (asciiRuns.find? fun run => run.1 ≤ c.toNat && decide (c.toNat < run.1 + run.2.1)).map
    fun run => .ofNat (run.2.2 + (c.toNat - run.1))

/-- The ASCII characters that a code point beyond ASCII stands for, if it stands for several. -/
def asciiText? (c : CodePoint) : Option Text := (asciiTexts.lookup c.toNat).map Text.ofString

/-- Whether no label may hold a code point. -/
def isRefused (c : CodePoint) : Bool := Text.inClass refusedBoundaries c

/-- Whether a code point is a letter that is written from right to left. -/
def isRightToLeft (c : CodePoint) : Bool := Text.inClass rightToLeftBoundaries c

/-- Whether a code point is a letter that is written from left to right. -/
def isLeftToRight (c : CodePoint) : Bool :=
  c.isAsciiLetter || Text.inClass leftToRightBoundaries c

/-- Whether a code point would divide a host if it were replaced by what it stands for. -/
def isDivider (c : CodePoint) : Bool := dividers.contains c.toNat

end Host

end Reckoner
