/-!
# Compositions of characters

The characters that are composed of two others, and the combining classes of characters that have
one, these in the form of `Text.CodeRun`. The tables leave out characters that no domain name holds.
-/

namespace BlockPilot.Text

/-- Composed characters with their two parts. -/
def compositions : List (Nat × List Nat) := [
  (0xE0, [0x61, 0x300]), (0xE1, [0x61, 0x301]), (0xE2, [0x61, 0x302]), (0xE3, [0x61, 0x303]),
  (0xE4, [0x61, 0x308]), (0xE5, [0x61, 0x30A]), (0xE7, [0x63, 0x327]), (0xE8, [0x65, 0x300]),
  (0xE9, [0x65, 0x301]), (0xEA, [0x65, 0x302]), (0xEB, [0x65, 0x308]), (0xEC, [0x69, 0x300]),
  (0xED, [0x69, 0x301]), (0xEE, [0x69, 0x302]), (0xEF, [0x69, 0x308]), (0xF1, [0x6E, 0x303]),
  (0xF2, [0x6F, 0x300]), (0xF3, [0x6F, 0x301]), (0xF4, [0x6F, 0x302]), (0xF5, [0x6F, 0x303]),
  (0xF6, [0x6F, 0x308]), (0xF9, [0x75, 0x300]), (0xFA, [0x75, 0x301]), (0xFB, [0x75, 0x302]),
  (0xFC, [0x75, 0x308]), (0xFD, [0x79, 0x301]), (0xFF, [0x79, 0x308]), (0x101, [0x61, 0x304]),
  (0x103, [0x61, 0x306]), (0x105, [0x61, 0x328]), (0x107, [0x63, 0x301]), (0x109, [0x63, 0x302]),
  (0x10B, [0x63, 0x307]), (0x10D, [0x63, 0x30C]), (0x10F, [0x64, 0x30C]), (0x113, [0x65, 0x304]),
  (0x115, [0x65, 0x306]), (0x117, [0x65, 0x307]), (0x119, [0x65, 0x328]), (0x11B, [0x65, 0x30C]),
  (0x11D, [0x67, 0x302]), (0x11F, [0x67, 0x306]), (0x121, [0x67, 0x307]), (0x123, [0x67, 0x327]),
  (0x125, [0x68, 0x302]), (0x129, [0x69, 0x303]), (0x12B, [0x69, 0x304]), (0x12D, [0x69, 0x306]),
  (0x12F, [0x69, 0x328]), (0x135, [0x6A, 0x302]), (0x137, [0x6B, 0x327]), (0x13A, [0x6C, 0x301]),
  (0x13C, [0x6C, 0x327]), (0x13E, [0x6C, 0x30C]), (0x144, [0x6E, 0x301]), (0x146, [0x6E, 0x327]),
  (0x148, [0x6E, 0x30C]), (0x14D, [0x6F, 0x304]), (0x14F, [0x6F, 0x306]), (0x151, [0x6F, 0x30B]),
  (0x155, [0x72, 0x301]), (0x157, [0x72, 0x327]), (0x159, [0x72, 0x30C]), (0x15B, [0x73, 0x301]),
  (0x15D, [0x73, 0x302]), (0x15F, [0x73, 0x327]), (0x161, [0x73, 0x30C]), (0x163, [0x74, 0x327]),
  (0x165, [0x74, 0x30C]), (0x169, [0x75, 0x303]), (0x16B, [0x75, 0x304]), (0x16D, [0x75, 0x306]),
  (0x16F, [0x75, 0x30A]), (0x171, [0x75, 0x30B]), (0x173, [0x75, 0x328]), (0x175, [0x77, 0x302]),
  (0x177, [0x79, 0x302]), (0x17A, [0x7A, 0x301]), (0x17C, [0x7A, 0x307]), (0x17E, [0x7A, 0x30C]),
  (0x1A1, [0x6F, 0x31B]), (0x1B0, [0x75, 0x31B]), (0x1CE, [0x61, 0x30C]), (0x1D0, [0x69, 0x30C]),
  (0x1D2, [0x6F, 0x30C]), (0x1D4, [0x75, 0x30C]), (0x1D6, [0xFC, 0x304]), (0x1D8, [0xFC, 0x301]),
  (0x1DA, [0xFC, 0x30C]), (0x1DC, [0xFC, 0x300]), (0x1DF, [0xE4, 0x304]), (0x1E1, [0x227, 0x304]),
  (0x1E3, [0xE6, 0x304]), (0x1E7, [0x67, 0x30C]), (0x1E9, [0x6B, 0x30C]), (0x1EB, [0x6F, 0x328]),
  (0x1ED, [0x1EB, 0x304]), (0x1EF, [0x292, 0x30C]), (0x1F0, [0x6A, 0x30C]), (0x1F5, [0x67, 0x301]),
  (0x1F9, [0x6E, 0x300]), (0x1FB, [0xE5, 0x301]), (0x1FD, [0xE6, 0x301]), (0x1FF, [0xF8, 0x301]),
  (0x201, [0x61, 0x30F]), (0x203, [0x61, 0x311]), (0x205, [0x65, 0x30F]), (0x207, [0x65, 0x311]),
  (0x209, [0x69, 0x30F]), (0x20B, [0x69, 0x311]), (0x20D, [0x6F, 0x30F]), (0x20F, [0x6F, 0x311]),
  (0x211, [0x72, 0x30F]), (0x213, [0x72, 0x311]), (0x215, [0x75, 0x30F]), (0x217, [0x75, 0x311]),
  (0x219, [0x73, 0x326]), (0x21B, [0x74, 0x326]), (0x21F, [0x68, 0x30C]), (0x227, [0x61, 0x307]),
  (0x229, [0x65, 0x327]), (0x22B, [0xF6, 0x304]), (0x22D, [0xF5, 0x304]), (0x22F, [0x6F, 0x307]),
  (0x231, [0x22F, 0x304]), (0x233, [0x79, 0x304]), (0x390, [0x3CA, 0x301]), (0x3AC, [0x3B1, 0x301]),
  (0x3AD, [0x3B5, 0x301]), (0x3AE, [0x3B7, 0x301]), (0x3AF, [0x3B9, 0x301]),
  (0x3B0, [0x3CB, 0x301]), (0x3CA, [0x3B9, 0x308]), (0x3CB, [0x3C5, 0x308]),
  (0x3CC, [0x3BF, 0x301]), (0x3CD, [0x3C5, 0x301]), (0x3CE, [0x3C9, 0x301]),
  (0x439, [0x438, 0x306]), (0x450, [0x435, 0x300]), (0x451, [0x435, 0x308]),
  (0x453, [0x433, 0x301]), (0x457, [0x456, 0x308]), (0x45C, [0x43A, 0x301]),
  (0x45D, [0x438, 0x300]), (0x45E, [0x443, 0x306]), (0x477, [0x475, 0x30F]),
  (0x4C2, [0x436, 0x306]), (0x4D1, [0x430, 0x306]), (0x4D3, [0x430, 0x308]),
  (0x4D7, [0x435, 0x306]), (0x4DB, [0x4D9, 0x308]), (0x4DD, [0x436, 0x308]),
  (0x4DF, [0x437, 0x308]), (0x4E3, [0x438, 0x304]), (0x4E5, [0x438, 0x308]),
  (0x4E7, [0x43E, 0x308]), (0x4EB, [0x4E9, 0x308]), (0x4ED, [0x44D, 0x308]),
  (0x4EF, [0x443, 0x304]), (0x4F1, [0x443, 0x308]), (0x4F3, [0x443, 0x30B]),
  (0x4F5, [0x447, 0x308]), (0x4F9, [0x44B, 0x308]), (0x622, [0x627, 0x653]),
  (0x623, [0x627, 0x654]), (0x624, [0x648, 0x654]), (0x625, [0x627, 0x655]),
  (0x626, [0x64A, 0x654]), (0x6C0, [0x6D5, 0x654]), (0x6C2, [0x6C1, 0x654]),
  (0x6D3, [0x6D2, 0x654]), (0x929, [0x928, 0x93C]), (0x931, [0x930, 0x93C]),
  (0x934, [0x933, 0x93C]), (0x9CB, [0x9C7, 0x9BE]), (0x9CC, [0x9C7, 0x9D7]),
  (0xB48, [0xB47, 0xB56]), (0xB4B, [0xB47, 0xB3E]), (0xB4C, [0xB47, 0xB57]),
  (0xB94, [0xB92, 0xBD7]), (0xBCA, [0xBC6, 0xBBE]), (0xBCB, [0xBC7, 0xBBE]),
  (0xBCC, [0xBC6, 0xBD7]), (0xC48, [0xC46, 0xC56]), (0xCC0, [0xCBF, 0xCD5]),
  (0xCC7, [0xCC6, 0xCD5]), (0xCC8, [0xCC6, 0xCD6]), (0xCCA, [0xCC6, 0xCC2]),
  (0xCCB, [0xCCA, 0xCD5]), (0xD4A, [0xD46, 0xD3E]), (0xD4B, [0xD47, 0xD3E]),
  (0xD4C, [0xD46, 0xD57]), (0xDDA, [0xDD9, 0xDCA]), (0xDDC, [0xDD9, 0xDCF]),
  (0xDDD, [0xDDC, 0xDCA]), (0xDDE, [0xDD9, 0xDDF]), (0x1026, [0x1025, 0x102E]),
  (0x1B06, [0x1B05, 0x1B35]), (0x1B08, [0x1B07, 0x1B35]), (0x1B0A, [0x1B09, 0x1B35]),
  (0x1B0C, [0x1B0B, 0x1B35]), (0x1B0E, [0x1B0D, 0x1B35]), (0x1B12, [0x1B11, 0x1B35]),
  (0x1B3B, [0x1B3A, 0x1B35]), (0x1B3D, [0x1B3C, 0x1B35]), (0x1B40, [0x1B3E, 0x1B35]),
  (0x1B41, [0x1B3F, 0x1B35]), (0x1B43, [0x1B42, 0x1B35]), (0x1E01, [0x61, 0x325]),
  (0x1E03, [0x62, 0x307]), (0x1E05, [0x62, 0x323]), (0x1E07, [0x62, 0x331]),
  (0x1E09, [0xE7, 0x301]), (0x1E0B, [0x64, 0x307]), (0x1E0D, [0x64, 0x323]),
  (0x1E0F, [0x64, 0x331]), (0x1E11, [0x64, 0x327]), (0x1E13, [0x64, 0x32D]),
  (0x1E15, [0x113, 0x300]), (0x1E17, [0x113, 0x301]), (0x1E19, [0x65, 0x32D]),
  (0x1E1B, [0x65, 0x330]), (0x1E1D, [0x229, 0x306]), (0x1E1F, [0x66, 0x307]),
  (0x1E21, [0x67, 0x304]), (0x1E23, [0x68, 0x307]), (0x1E25, [0x68, 0x323]),
  (0x1E27, [0x68, 0x308]), (0x1E29, [0x68, 0x327]), (0x1E2B, [0x68, 0x32E]),
  (0x1E2D, [0x69, 0x330]), (0x1E2F, [0xEF, 0x301]), (0x1E31, [0x6B, 0x301]),
  (0x1E33, [0x6B, 0x323]), (0x1E35, [0x6B, 0x331]), (0x1E37, [0x6C, 0x323]),
  (0x1E39, [0x1E37, 0x304]), (0x1E3B, [0x6C, 0x331]), (0x1E3D, [0x6C, 0x32D]),
  (0x1E3F, [0x6D, 0x301]), (0x1E41, [0x6D, 0x307]), (0x1E43, [0x6D, 0x323]),
  (0x1E45, [0x6E, 0x307]), (0x1E47, [0x6E, 0x323]), (0x1E49, [0x6E, 0x331]),
  (0x1E4B, [0x6E, 0x32D]), (0x1E4D, [0xF5, 0x301]), (0x1E4F, [0xF5, 0x308]),
  (0x1E51, [0x14D, 0x300]), (0x1E53, [0x14D, 0x301]), (0x1E55, [0x70, 0x301]),
  (0x1E57, [0x70, 0x307]), (0x1E59, [0x72, 0x307]), (0x1E5B, [0x72, 0x323]),
  (0x1E5D, [0x1E5B, 0x304]), (0x1E5F, [0x72, 0x331]), (0x1E61, [0x73, 0x307]),
  (0x1E63, [0x73, 0x323]), (0x1E65, [0x15B, 0x307]), (0x1E67, [0x161, 0x307]),
  (0x1E69, [0x1E63, 0x307]), (0x1E6B, [0x74, 0x307]), (0x1E6D, [0x74, 0x323]),
  (0x1E6F, [0x74, 0x331]), (0x1E71, [0x74, 0x32D]), (0x1E73, [0x75, 0x324]),
  (0x1E75, [0x75, 0x330]), (0x1E77, [0x75, 0x32D]), (0x1E79, [0x169, 0x301]),
  (0x1E7B, [0x16B, 0x308]), (0x1E7D, [0x76, 0x303]), (0x1E7F, [0x76, 0x323]),
  (0x1E81, [0x77, 0x300]), (0x1E83, [0x77, 0x301]), (0x1E85, [0x77, 0x308]),
  (0x1E87, [0x77, 0x307]), (0x1E89, [0x77, 0x323]), (0x1E8B, [0x78, 0x307]),
  (0x1E8D, [0x78, 0x308]), (0x1E8F, [0x79, 0x307]), (0x1E91, [0x7A, 0x302]),
  (0x1E93, [0x7A, 0x323]), (0x1E95, [0x7A, 0x331]), (0x1E96, [0x68, 0x331]),
  (0x1E97, [0x74, 0x308]), (0x1E98, [0x77, 0x30A]), (0x1E99, [0x79, 0x30A]),
  (0x1EA1, [0x61, 0x323]), (0x1EA3, [0x61, 0x309]), (0x1EA5, [0xE2, 0x301]),
  (0x1EA7, [0xE2, 0x300]), (0x1EA9, [0xE2, 0x309]), (0x1EAB, [0xE2, 0x303]),
  (0x1EAD, [0x1EA1, 0x302]), (0x1EAF, [0x103, 0x301]), (0x1EB1, [0x103, 0x300]),
  (0x1EB3, [0x103, 0x309]), (0x1EB5, [0x103, 0x303]), (0x1EB7, [0x1EA1, 0x306]),
  (0x1EB9, [0x65, 0x323]), (0x1EBB, [0x65, 0x309]), (0x1EBD, [0x65, 0x303]),
  (0x1EBF, [0xEA, 0x301]), (0x1EC1, [0xEA, 0x300]), (0x1EC3, [0xEA, 0x309]),
  (0x1EC5, [0xEA, 0x303]), (0x1EC7, [0x1EB9, 0x302]), (0x1EC9, [0x69, 0x309]),
  (0x1ECB, [0x69, 0x323]), (0x1ECD, [0x6F, 0x323]), (0x1ECF, [0x6F, 0x309]),
  (0x1ED1, [0xF4, 0x301]), (0x1ED3, [0xF4, 0x300]), (0x1ED5, [0xF4, 0x309]),
  (0x1ED7, [0xF4, 0x303]), (0x1ED9, [0x1ECD, 0x302]), (0x1EDB, [0x1A1, 0x301]),
  (0x1EDD, [0x1A1, 0x300]), (0x1EDF, [0x1A1, 0x309]), (0x1EE1, [0x1A1, 0x303]),
  (0x1EE3, [0x1A1, 0x323]), (0x1EE5, [0x75, 0x323]), (0x1EE7, [0x75, 0x309]),
  (0x1EE9, [0x1B0, 0x301]), (0x1EEB, [0x1B0, 0x300]), (0x1EED, [0x1B0, 0x309]),
  (0x1EEF, [0x1B0, 0x303]), (0x1EF1, [0x1B0, 0x323]), (0x1EF3, [0x79, 0x300]),
  (0x1EF5, [0x79, 0x323]), (0x1EF7, [0x79, 0x309]), (0x1EF9, [0x79, 0x303]),
  (0x1F00, [0x3B1, 0x313]), (0x1F01, [0x3B1, 0x314]), (0x1F02, [0x1F00, 0x300]),
  (0x1F03, [0x1F01, 0x300]), (0x1F04, [0x1F00, 0x301]), (0x1F05, [0x1F01, 0x301]),
  (0x1F06, [0x1F00, 0x342]), (0x1F07, [0x1F01, 0x342]), (0x1F10, [0x3B5, 0x313]),
  (0x1F11, [0x3B5, 0x314]), (0x1F12, [0x1F10, 0x300]), (0x1F13, [0x1F11, 0x300]),
  (0x1F14, [0x1F10, 0x301]), (0x1F15, [0x1F11, 0x301]), (0x1F20, [0x3B7, 0x313]),
  (0x1F21, [0x3B7, 0x314]), (0x1F22, [0x1F20, 0x300]), (0x1F23, [0x1F21, 0x300]),
  (0x1F24, [0x1F20, 0x301]), (0x1F25, [0x1F21, 0x301]), (0x1F26, [0x1F20, 0x342]),
  (0x1F27, [0x1F21, 0x342]), (0x1F30, [0x3B9, 0x313]), (0x1F31, [0x3B9, 0x314]),
  (0x1F32, [0x1F30, 0x300]), (0x1F33, [0x1F31, 0x300]), (0x1F34, [0x1F30, 0x301]),
  (0x1F35, [0x1F31, 0x301]), (0x1F36, [0x1F30, 0x342]), (0x1F37, [0x1F31, 0x342]),
  (0x1F40, [0x3BF, 0x313]), (0x1F41, [0x3BF, 0x314]), (0x1F42, [0x1F40, 0x300]),
  (0x1F43, [0x1F41, 0x300]), (0x1F44, [0x1F40, 0x301]), (0x1F45, [0x1F41, 0x301]),
  (0x1F50, [0x3C5, 0x313]), (0x1F51, [0x3C5, 0x314]), (0x1F52, [0x1F50, 0x300]),
  (0x1F53, [0x1F51, 0x300]), (0x1F54, [0x1F50, 0x301]), (0x1F55, [0x1F51, 0x301]),
  (0x1F56, [0x1F50, 0x342]), (0x1F57, [0x1F51, 0x342]), (0x1F60, [0x3C9, 0x313]),
  (0x1F61, [0x3C9, 0x314]), (0x1F62, [0x1F60, 0x300]), (0x1F63, [0x1F61, 0x300]),
  (0x1F64, [0x1F60, 0x301]), (0x1F65, [0x1F61, 0x301]), (0x1F66, [0x1F60, 0x342]),
  (0x1F67, [0x1F61, 0x342]), (0x1F70, [0x3B1, 0x300]), (0x1F72, [0x3B5, 0x300]),
  (0x1F74, [0x3B7, 0x300]), (0x1F76, [0x3B9, 0x300]), (0x1F78, [0x3BF, 0x300]),
  (0x1F7A, [0x3C5, 0x300]), (0x1F7C, [0x3C9, 0x300]), (0x1FB0, [0x3B1, 0x306]),
  (0x1FB1, [0x3B1, 0x304]), (0x1FB6, [0x3B1, 0x342]), (0x1FC6, [0x3B7, 0x342]),
  (0x1FD0, [0x3B9, 0x306]), (0x1FD1, [0x3B9, 0x304]), (0x1FD2, [0x3CA, 0x300]),
  (0x1FD6, [0x3B9, 0x342]), (0x1FD7, [0x3CA, 0x342]), (0x1FE0, [0x3C5, 0x306]),
  (0x1FE1, [0x3C5, 0x304]), (0x1FE2, [0x3CB, 0x300]), (0x1FE4, [0x3C1, 0x313]),
  (0x1FE5, [0x3C1, 0x314]), (0x1FE6, [0x3C5, 0x342]), (0x1FE7, [0x3CB, 0x342]),
  (0x1FF6, [0x3C9, 0x342]), (0x219A, [0x2190, 0x338]), (0x219B, [0x2192, 0x338]),
  (0x21AE, [0x2194, 0x338]), (0x21CD, [0x21D0, 0x338]), (0x21CE, [0x21D4, 0x338]),
  (0x21CF, [0x21D2, 0x338]), (0x2204, [0x2203, 0x338]), (0x2209, [0x2208, 0x338]),
  (0x220C, [0x220B, 0x338]), (0x2224, [0x2223, 0x338]), (0x2226, [0x2225, 0x338]),
  (0x2241, [0x223C, 0x338]), (0x2244, [0x2243, 0x338]), (0x2247, [0x2245, 0x338]),
  (0x2249, [0x2248, 0x338]), (0x2260, [0x3D, 0x338]), (0x2262, [0x2261, 0x338]),
  (0x226D, [0x224D, 0x338]), (0x226E, [0x3C, 0x338]), (0x226F, [0x3E, 0x338]),
  (0x2270, [0x2264, 0x338]), (0x2271, [0x2265, 0x338]), (0x2274, [0x2272, 0x338]),
  (0x2275, [0x2273, 0x338]), (0x2278, [0x2276, 0x338]), (0x2279, [0x2277, 0x338]),
  (0x2280, [0x227A, 0x338]), (0x2281, [0x227B, 0x338]), (0x2284, [0x2282, 0x338]),
  (0x2285, [0x2283, 0x338]), (0x2288, [0x2286, 0x338]), (0x2289, [0x2287, 0x338]),
  (0x22AC, [0x22A2, 0x338]), (0x22AD, [0x22A8, 0x338]), (0x22AE, [0x22A9, 0x338]),
  (0x22AF, [0x22AB, 0x338]), (0x22E0, [0x227C, 0x338]), (0x22E1, [0x227D, 0x338]),
  (0x22E2, [0x2291, 0x338]), (0x22E3, [0x2292, 0x338]), (0x22EA, [0x22B2, 0x338]),
  (0x22EB, [0x22B3, 0x338]), (0x22EC, [0x22B4, 0x338]), (0x22ED, [0x22B5, 0x338]),
  (0x304C, [0x304B, 0x3099]), (0x304E, [0x304D, 0x3099]), (0x3050, [0x304F, 0x3099]),
  (0x3052, [0x3051, 0x3099]), (0x3054, [0x3053, 0x3099]), (0x3056, [0x3055, 0x3099]),
  (0x3058, [0x3057, 0x3099]), (0x305A, [0x3059, 0x3099]), (0x305C, [0x305B, 0x3099]),
  (0x305E, [0x305D, 0x3099]), (0x3060, [0x305F, 0x3099]), (0x3062, [0x3061, 0x3099]),
  (0x3065, [0x3064, 0x3099]), (0x3067, [0x3066, 0x3099]), (0x3069, [0x3068, 0x3099]),
  (0x3070, [0x306F, 0x3099]), (0x3071, [0x306F, 0x309A]), (0x3073, [0x3072, 0x3099]),
  (0x3074, [0x3072, 0x309A]), (0x3076, [0x3075, 0x3099]), (0x3077, [0x3075, 0x309A]),
  (0x3079, [0x3078, 0x3099]), (0x307A, [0x3078, 0x309A]), (0x307C, [0x307B, 0x3099]),
  (0x307D, [0x307B, 0x309A]), (0x3094, [0x3046, 0x3099]), (0x309E, [0x309D, 0x3099]),
  (0x30AC, [0x30AB, 0x3099]), (0x30AE, [0x30AD, 0x3099]), (0x30B0, [0x30AF, 0x3099]),
  (0x30B2, [0x30B1, 0x3099]), (0x30B4, [0x30B3, 0x3099]), (0x30B6, [0x30B5, 0x3099]),
  (0x30B8, [0x30B7, 0x3099]), (0x30BA, [0x30B9, 0x3099]), (0x30BC, [0x30BB, 0x3099]),
  (0x30BE, [0x30BD, 0x3099]), (0x30C0, [0x30BF, 0x3099]), (0x30C2, [0x30C1, 0x3099]),
  (0x30C5, [0x30C4, 0x3099]), (0x30C7, [0x30C6, 0x3099]), (0x30C9, [0x30C8, 0x3099]),
  (0x30D0, [0x30CF, 0x3099]), (0x30D1, [0x30CF, 0x309A]), (0x30D3, [0x30D2, 0x3099]),
  (0x30D4, [0x30D2, 0x309A]), (0x30D6, [0x30D5, 0x3099]), (0x30D7, [0x30D5, 0x309A]),
  (0x30D9, [0x30D8, 0x3099]), (0x30DA, [0x30D8, 0x309A]), (0x30DC, [0x30DB, 0x3099]),
  (0x30DD, [0x30DB, 0x309A]), (0x30F4, [0x30A6, 0x3099]), (0x30F7, [0x30EF, 0x3099]),
  (0x30F8, [0x30F0, 0x3099]), (0x30F9, [0x30F1, 0x3099]), (0x30FA, [0x30F2, 0x3099]),
  (0x30FE, [0x30FD, 0x3099]), (0x1109A, [0x11099, 0x110BA]), (0x1109C, [0x1109B, 0x110BA]),
  (0x110AB, [0x110A5, 0x110BA]), (0x1112E, [0x11131, 0x11127]), (0x1112F, [0x11132, 0x11127]),
  (0x1134B, [0x11347, 0x1133E]), (0x1134C, [0x11347, 0x11357]), (0x114BB, [0x114B9, 0x114BA]),
  (0x114BC, [0x114B9, 0x114B0]), (0x114BE, [0x114B9, 0x114BD]), (0x115BA, [0x115B8, 0x115AF]),
  (0x115BB, [0x115B9, 0x115AF]), (0x11938, [0x11935, 0x11930])]

/-- Characters with their combining classes in base 16. -/
def combiningText : String := "
  300-314:E6 315:E8 316-319:DC 31A:E8 31B:D8 31C-320:DC 321-322:CA 323-326:DC 327-328:CA
  329-333:DC 334-338:1 339-33C:DC 33D-346:E6 347-349:DC 34A-34C:E6 34D-34E:DC 350-352:E6
  353-356:DC 357:E6 358:E8 359-35A:DC 35B:E6 35C:E9 35D-35E:EA 35F:E9 360-361:EA 362:E9 363-36F:E6
  483-487:E6 591:DC 592-595:E6 596:DC 597-599:E6 59A:DE 59B:DC 59C-5A1:E6 5A2-5A7:DC 5A8-5A9:E6
  5AA:DC 5AB-5AC:E6 5AD:DE 5AE:E4 5AF:E6 5B0:A 5B1:B 5B2:C 5B3:D 5B4:E 5B5:F 5B6:10 5B7:11 5B8:12
  5B9-5BA:13 5BB:14 5BC:15 5BD:16 5BF:17 5C1:18 5C2:19 5C4:E6 5C5:DC 5C7:12 610-617:E6 618:1E
  619:1F 61A:20 64B:1B 64C:1C 64D:1D 64E:1E 64F:1F 650:20 651:21 652:22 653-654:E6 655-656:DC
  657-65B:E6 65C:DC 65D-65E:E6 65F:DC 670:23 6D6-6DC:E6 6DF-6E2:E6 6E3:DC 6E4:E6 6E7-6E8:E6 6EA:DC
  6EB-6EC:E6 6ED:DC 711:24 730:E6 731:DC 732-733:E6 734:DC 735-736:E6 737-739:DC 73A:E6 73B-73C:DC
  73D:E6 73E:DC 73F-741:E6 742:DC 743:E6 744:DC 745:E6 746:DC 747:E6 748:DC 749-74A:E6 7EB-7F1:E6
  7F2:DC 7F3:E6 7FD:DC 816-819:E6 81B-823:E6 825-827:E6 829-82D:E6 859-85B:DC 898:E6 899-89B:DC
  89C-89F:E6 8CA-8CE:E6 8CF-8D3:DC 8D4-8E1:E6 8E3:DC 8E4-8E5:E6 8E6:DC 8E7-8E8:E6 8E9:DC
  8EA-8EC:E6 8ED-8EF:DC 8F0:1B 8F1:1C 8F2:1D 8F3-8F5:E6 8F6:DC 8F7-8F8:E6 8F9-8FA:DC 8FB-8FF:E6
  93C:7 94D:9 951:E6 952:DC 953-954:E6 9BC:7 9CD:9 9FE:E6 A3C:7 A4D:9 ABC:7 ACD:9 B3C:7 B4D:9
  BCD:9 C3C:7 C4D:9 C55:54 C56:5B CBC:7 CCD:9 D3B-D3C:9 D4D:9 DCA:9 E38-E39:67 E3A:9 E48-E4B:6B
  EB8-EB9:76 EBA:9 EC8-ECB:7A F18-F19:DC F35:DC F37:DC F39:D8 F71:81 F72:82 F74:84 F7A-F7D:82
  F80:82 F82-F83:E6 F84:9 F86-F87:E6 FC6:DC 1037:7 1039-103A:9 108D:DC 135D-135F:E6 1714-1715:9
  1734:9 17D2:9 17DD:E6 18A9:E4 1939:DE 193A:E6 193B:DC 1A17:E6 1A18:DC 1A60:9 1A75-1A7C:E6
  1A7F:DC 1AB0-1AB4:E6 1AB5-1ABA:DC 1ABB-1ABC:E6 1ABD:DC 1ABF-1AC0:DC 1AC1-1AC2:E6 1AC3-1AC4:DC
  1AC5-1AC9:E6 1ACA:DC 1ACB-1ACE:E6 1B34:7 1B44:9 1B6B:E6 1B6C:DC 1B6D-1B73:E6 1BAA-1BAB:9 1BE6:7
  1BF2-1BF3:9 1C37:7 1CD0-1CD2:E6 1CD4:1 1CD5-1CD9:DC 1CDA-1CDB:E6 1CDC-1CDF:DC 1CE0:E6
  1CE2-1CE8:1 1CED:DC 1CF4:E6 1CF8-1CF9:E6 1DC0-1DC1:E6 1DC2:DC 1DC3-1DC9:E6 1DCA:DC 1DCB-1DCC:E6
  1DCD:EA 1DCE:D6 1DCF:DC 1DD0:CA 1DD1-1DF5:E6 1DF6:E8 1DF7-1DF8:E4 1DF9:DC 1DFA:DA 1DFB:E6
  1DFC:E9 1DFD:DC 1DFE:E6 1DFF:DC 20D0-20D1:E6 20D2-20D3:1 20D4-20D7:E6 20D8-20DA:1 20DB-20DC:E6
  20E1:E6 20E5-20E6:1 20E7:E6 20E8:DC 20E9:E6 20EA-20EB:1 20EC-20EF:DC 20F0:E6 2CEF-2CF1:E6 2D7F:9
  2DE0-2DFF:E6 302A:DA 302B:E4 302C:E8 302D:DE 302E-302F:E0 3099-309A:8 A66F:E6 A674-A67D:E6
  A69E-A69F:E6 A6F0-A6F1:E6 A806:9 A82C:9 A8C4:9 A8E0-A8F1:E6 A92B-A92D:DC A953:9 A9B3:7 A9C0:9
  AAB0:E6 AAB2-AAB3:E6 AAB4:DC AAB7-AAB8:E6 AABE-AABF:E6 AAC1:E6 AAF6:9 ABED:9 FB1E:1A
  FE20-FE26:E6 FE27-FE2D:DC FE2E-FE2F:E6 101FD:DC 102E0:DC 10376-1037A:E6 10A0D:DC 10A0F:E6
  10A38:E6 10A39:1 10A3A:DC 10A3F:9 10AE5:E6 10AE6:DC 10D24-10D27:E6 10EAB-10EAC:E6 10F46-10F47:DC
  10F48-10F4A:E6 10F4B:DC 10F4C:E6 10F4D-10F50:DC 10F82:E6 10F83:DC 10F84:E6 10F85:DC 11046:9
  11070:9 1107F:9 110B9:9 110BA:7 11100-11102:E6 11133-11134:9 11173:7 111C0:9 111CA:7 11235:9
  11236:7 112E9:7 112EA:9 1133B-1133C:7 1134D:9 11366-11374:E6 11442:9 11446:7 1145E:E6 114C2:9
  114C3:7 115BF:9 115C0:7 1163F:9 116B6:9 116B7:7 1172B:9 11839:9 1183A:7 1193D-1193E:9 11943:7
  119E0:9 11A34:9 11A47:9 11A99:9 11C3F:9 11D42:7 11D44-11D45:9 11D97:9 16AF0-16AF4:1
  16B30-16B36:E6 16FF0-16FF1:6 1BC9E:1 1D165-1D166:D8 1D167-1D169:1 1D16D:E2 1D16E-1D172:D8
  1D17B-1D182:DC 1D185-1D189:E6 1D18A-1D18B:DC 1D1AA-1D1AD:E6 1D242-1D244:E6 1E000-1E02A:E6
  1E130-1E136:E6 1E2AE:E6 1E2EC-1E2EF:E6 1E8D0-1E8D6:DC 1E944-1E949:E6 1E94A:7"

end BlockPilot.Text
