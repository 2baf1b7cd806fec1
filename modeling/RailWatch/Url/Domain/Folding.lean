import RailWatch.Text.CharRuns
import RailWatch.Text.LetterCase
/-!
# RailWatch.Url.Domain.Folding

What each character counts as in a domain name.

Some characters cannot be in a name, and some are left out of it. Capital letters and variants of
characters count as a usual form, which may have several characters. All others count as themselves.
Variants that the composed normal form takes care of are not in the tables, and those of which the
form has a space are among the characters that cannot be in a name.
-/

namespace RailWatch.Url.Domain

open Text

/-- The ranges of characters that cannot be in a name. -/
def refusedRanges : List (Nat × Nat) := [
   (0x80, 0xA0), (0xA8, 0xA8), (0xAF, 0xAF), (0xB4, 0xB4), (0xB8, 0xB8), (0x2D8, 0x2DD),
   (0x378, 0x37A), (0x380, 0x385), (0x38B, 0x38B), (0x38D, 0x38D), (0x3A2, 0x3A2), (0x530, 0x530),
   (0x557, 0x558), (0x58B, 0x58C), (0x590, 0x590), (0x5C8, 0x5CF), (0x5EB, 0x5EE), (0x5F5, 0x605),
   (0x61C, 0x61C), (0x6DD, 0x6DD), (0x70E, 0x70F), (0x74B, 0x74C), (0x7B2, 0x7BF), (0x7FB, 0x7FC),
   (0x82E, 0x82F), (0x83F, 0x83F), (0x85C, 0x85D), (0x85F, 0x85F), (0x86B, 0x86F), (0x890, 0x896),
   (0x8E2, 0x8E2), (0x984, 0x984), (0x98D, 0x98E), (0x991, 0x992), (0x9A9, 0x9A9), (0x9B1, 0x9B1),
   (0x9B3, 0x9B5), (0x9BA, 0x9BB), (0x9C5, 0x9C6), (0x9C9, 0x9CA), (0x9CF, 0x9D6), (0x9D8, 0x9DB),
   (0x9DE, 0x9DE), (0x9E4, 0x9E5), (0x9FF, 0xA00), (0xA04, 0xA04), (0xA0B, 0xA0E), (0xA11, 0xA12),
   (0xA29, 0xA29), (0xA31, 0xA31), (0xA34, 0xA34), (0xA37, 0xA37), (0xA3A, 0xA3B), (0xA3D, 0xA3D),
   (0xA43, 0xA46), (0xA49, 0xA4A), (0xA4E, 0xA50), (0xA52, 0xA58), (0xA5D, 0xA5D), (0xA5F, 0xA65),
   (0xA77, 0xA80), (0xA84, 0xA84), (0xA8E, 0xA8E), (0xA92, 0xA92), (0xAA9, 0xAA9), (0xAB1, 0xAB1),
   (0xAB4, 0xAB4), (0xABA, 0xABB), (0xAC6, 0xAC6), (0xACA, 0xACA), (0xACE, 0xACF), (0xAD1, 0xADF),
   (0xAE4, 0xAE5), (0xAF2, 0xAF8), (0xB00, 0xB00), (0xB04, 0xB04), (0xB0D, 0xB0E), (0xB11, 0xB12),
   (0xB29, 0xB29), (0xB31, 0xB31), (0xB34, 0xB34), (0xB3A, 0xB3B), (0xB45, 0xB46), (0xB49, 0xB4A),
   (0xB4E, 0xB54), (0xB58, 0xB5B), (0xB5E, 0xB5E), (0xB64, 0xB65), (0xB78, 0xB81), (0xB84, 0xB84),
   (0xB8B, 0xB8D), (0xB91, 0xB91), (0xB96, 0xB98), (0xB9B, 0xB9B), (0xB9D, 0xB9D), (0xBA0, 0xBA2),
   (0xBA5, 0xBA7), (0xBAB, 0xBAD), (0xBBA, 0xBBD), (0xBC3, 0xBC5), (0xBC9, 0xBC9), (0xBCE, 0xBCF),
   (0xBD1, 0xBD6), (0xBD8, 0xBE5), (0xBFB, 0xBFF), (0xC0D, 0xC0D), (0xC11, 0xC11), (0xC29, 0xC29),
   (0xC3A, 0xC3B), (0xC45, 0xC45), (0xC49, 0xC49), (0xC4E, 0xC54), (0xC57, 0xC57), (0xC5B, 0xC5B),
   (0xC5E, 0xC5F), (0xC64, 0xC65), (0xC70, 0xC76), (0xC8D, 0xC8D), (0xC91, 0xC91), (0xCA9, 0xCA9),
   (0xCB4, 0xCB4), (0xCBA, 0xCBB), (0xCC5, 0xCC5), (0xCC9, 0xCC9), (0xCCE, 0xCD4), (0xCD7, 0xCDB),
   (0xCDF, 0xCDF), (0xCE4, 0xCE5), (0xCF0, 0xCF0), (0xCF4, 0xCFF), (0xD0D, 0xD0D), (0xD11, 0xD11),
   (0xD45, 0xD45), (0xD49, 0xD49), (0xD50, 0xD53), (0xD64, 0xD65), (0xD80, 0xD80), (0xD84, 0xD84),
   (0xD97, 0xD99), (0xDB2, 0xDB2), (0xDBC, 0xDBC), (0xDBE, 0xDBF), (0xDC7, 0xDC9), (0xDCB, 0xDCE),
   (0xDD5, 0xDD5), (0xDD7, 0xDD7), (0xDE0, 0xDE5), (0xDF0, 0xDF1), (0xDF5, 0xE00), (0xE3B, 0xE3E),
   (0xE5C, 0xE80), (0xE83, 0xE83), (0xE85, 0xE85), (0xE8B, 0xE8B), (0xEA4, 0xEA4), (0xEA6, 0xEA6),
   (0xEBE, 0xEBF), (0xEC5, 0xEC5), (0xEC7, 0xEC7), (0xECF, 0xECF), (0xEDA, 0xEDB), (0xEE0, 0xEFF),
   (0xF48, 0xF48), (0xF6D, 0xF70), (0xF98, 0xF98), (0xFBD, 0xFBD), (0xFCD, 0xFCD), (0xFDB, 0xFFF),
   (0x10C6, 0x10C6), (0x10C8, 0x10CC), (0x10CE, 0x10CF), (0x1249, 0x1249), (0x124E, 0x124F),
   (0x1257, 0x1257), (0x1259, 0x1259), (0x125E, 0x125F), (0x1289, 0x1289), (0x128E, 0x128F),
   (0x12B1, 0x12B1), (0x12B6, 0x12B7), (0x12BF, 0x12BF), (0x12C1, 0x12C1), (0x12C6, 0x12C7),
   (0x12D7, 0x12D7), (0x1311, 0x1311), (0x1316, 0x1317), (0x135B, 0x135C), (0x137D, 0x137F),
   (0x139A, 0x139F), (0x13F6, 0x13F7), (0x13FE, 0x13FF), (0x1680, 0x1680), (0x169D, 0x169F),
   (0x16F9, 0x16FF), (0x1716, 0x171E), (0x1737, 0x173F), (0x1754, 0x175F), (0x176D, 0x176D),
   (0x1771, 0x1771), (0x1774, 0x177F), (0x17DE, 0x17DF), (0x17EA, 0x17EF), (0x17FA, 0x17FF),
   (0x181A, 0x181F), (0x1879, 0x187F), (0x18AB, 0x18AF), (0x18F6, 0x18FF), (0x191F, 0x191F),
   (0x192C, 0x192F), (0x193C, 0x193F), (0x1941, 0x1943), (0x196E, 0x196F), (0x1975, 0x197F),
   (0x19AC, 0x19AF), (0x19CA, 0x19CF), (0x19DB, 0x19DD), (0x1A1C, 0x1A1D), (0x1A5F, 0x1A5F),
   (0x1A7D, 0x1A7E), (0x1A8A, 0x1A8F), (0x1A9A, 0x1A9F), (0x1AAE, 0x1AAF), (0x1ADE, 0x1ADF),
   (0x1AEC, 0x1AFF), (0x1B4D, 0x1B4D), (0x1BF4, 0x1BFB), (0x1C38, 0x1C3A), (0x1C4A, 0x1C4C),
   (0x1C8B, 0x1C8F), (0x1CBB, 0x1CBC), (0x1CC8, 0x1CCF), (0x1CFB, 0x1CFF), (0x1F16, 0x1F17),
   (0x1F1E, 0x1F1F), (0x1F46, 0x1F47), (0x1F4E, 0x1F4F), (0x1F58, 0x1F58), (0x1F5A, 0x1F5A),
   (0x1F5C, 0x1F5C), (0x1F5E, 0x1F5E), (0x1F7E, 0x1F7F), (0x1FB5, 0x1FB5), (0x1FBD, 0x1FBD),
   (0x1FBF, 0x1FC1), (0x1FC5, 0x1FC5), (0x1FCD, 0x1FCF), (0x1FD4, 0x1FD5), (0x1FDC, 0x1FDF),
   (0x1FED, 0x1FEE), (0x1FF0, 0x1FF1), (0x1FF5, 0x1FF5), (0x1FFD, 0x200A), (0x200E, 0x200F),
   (0x2017, 0x2017), (0x2024, 0x2026), (0x2028, 0x202F), (0x203E, 0x203E), (0x205F, 0x205F),
   (0x2065, 0x2069), (0x2072, 0x2073), (0x208F, 0x208F), (0x209D, 0x209F), (0x20C2, 0x20CF),
   (0x20F1, 0x20FF), (0x218C, 0x218F), (0x242A, 0x243F), (0x244B, 0x245F), (0x2488, 0x249B),
   (0x2B74, 0x2B75), (0x2CF4, 0x2CF8), (0x2D26, 0x2D26), (0x2D28, 0x2D2C), (0x2D2E, 0x2D2F),
   (0x2D68, 0x2D6E), (0x2D71, 0x2D7E), (0x2D97, 0x2D9F), (0x2DA7, 0x2DA7), (0x2DAF, 0x2DAF),
   (0x2DB7, 0x2DB7), (0x2DBF, 0x2DBF), (0x2DC7, 0x2DC7), (0x2DCF, 0x2DCF), (0x2DD7, 0x2DD7),
   (0x2DDF, 0x2DDF), (0x2E5E, 0x2E7F), (0x2E9A, 0x2E9A), (0x2EF4, 0x2EFF), (0x2FD6, 0x3000),
   (0x3040, 0x3040), (0x3097, 0x3098), (0x309B, 0x309C), (0x3100, 0x3104), (0x3130, 0x3130),
   (0x318F, 0x318F), (0x31E6, 0x31EF), (0x321F, 0x321F), (0x33C2, 0x33C2), (0x33C7, 0x33C7),
   (0x33D8, 0x33D8), (0xA48D, 0xA48F), (0xA4C7, 0xA4CF), (0xA62C, 0xA63F), (0xA6F8, 0xA6FF),
   (0xA7DD, 0xA7F0), (0xA82D, 0xA82F), (0xA83A, 0xA83F), (0xA878, 0xA87F), (0xA8C6, 0xA8CD),
   (0xA8DA, 0xA8DF), (0xA954, 0xA95E), (0xA97D, 0xA97F), (0xA9CE, 0xA9CE), (0xA9DA, 0xA9DD),
   (0xA9FF, 0xA9FF), (0xAA37, 0xAA3F), (0xAA4E, 0xAA4F), (0xAA5A, 0xAA5B), (0xAAC3, 0xAADA),
   (0xAAF7, 0xAB00), (0xAB07, 0xAB08), (0xAB0F, 0xAB10), (0xAB17, 0xAB1F), (0xAB27, 0xAB27),
   (0xAB2F, 0xAB2F), (0xAB6C, 0xAB6F), (0xABEE, 0xABEF), (0xABFA, 0xABFF), (0xD7A4, 0xD7AF),
   (0xD7C7, 0xD7CA), (0xD7FC, 0xF8FF), (0xFA6E, 0xFA6F), (0xFADA, 0xFAFF), (0xFB07, 0xFB12),
   (0xFB18, 0xFB1C), (0xFB37, 0xFB37), (0xFB3D, 0xFB3D), (0xFB3F, 0xFB3F), (0xFB42, 0xFB42),
   (0xFB45, 0xFB45), (0xFC5E, 0xFC63), (0xFDD0, 0xFDEF), (0xFDFA, 0xFDFB), (0xFE12, 0xFE12),
   (0xFE19, 0xFE1F), (0xFE30, 0xFE30), (0xFE49, 0xFE4C), (0xFE52, 0xFE53), (0xFE67, 0xFE67),
   (0xFE6C, 0xFE70), (0xFE72, 0xFE72), (0xFE74, 0xFE76), (0xFE78, 0xFE78), (0xFE7A, 0xFE7A),
   (0xFE7C, 0xFE7C), (0xFE7E, 0xFE7E), (0xFEFD, 0xFEFE), (0xFF00, 0xFF00), (0xFFBF, 0xFFC1),
   (0xFFC8, 0xFFC9), (0xFFD0, 0xFFD1), (0xFFD8, 0xFFD9), (0xFFDD, 0xFFDF), (0xFFE3, 0xFFE3),
   (0xFFE7, 0xFFE7), (0xFFEF, 0xFFFF), (0x1000C, 0x1000C), (0x10027, 0x10027), (0x1003B, 0x1003B),
   (0x1003E, 0x1003E), (0x1004E, 0x1004F), (0x1005E, 0x1007F), (0x100FB, 0x100FF),
   (0x10103, 0x10106), (0x10134, 0x10136), (0x1018F, 0x1018F), (0x1019D, 0x1019F),
   (0x101A1, 0x101CF), (0x101FE, 0x1027F), (0x1029D, 0x1029F), (0x102D1, 0x102DF),
   (0x102FC, 0x102FF), (0x10324, 0x1032C), (0x1034B, 0x1034F), (0x1037B, 0x1037F),
   (0x1039E, 0x1039E), (0x103C4, 0x103C7), (0x103D6, 0x103FF), (0x1049E, 0x1049F),
   (0x104AA, 0x104AF), (0x104D4, 0x104D7), (0x104FC, 0x104FF), (0x10528, 0x1052F),
   (0x10564, 0x1056E), (0x1057B, 0x1057B), (0x1058B, 0x1058B), (0x10593, 0x10593),
   (0x10596, 0x10596), (0x105A2, 0x105A2), (0x105B2, 0x105B2), (0x105BA, 0x105BA),
   (0x105BD, 0x105BF), (0x105F4, 0x105FF), (0x10737, 0x1073F), (0x10756, 0x1075F),
   (0x10768, 0x1077F), (0x10786, 0x10786), (0x107B1, 0x107B1), (0x107BB, 0x107FF),
   (0x10806, 0x10807), (0x10809, 0x10809), (0x10836, 0x10836), (0x10839, 0x1083B),
   (0x1083D, 0x1083E), (0x10856, 0x10856), (0x1089F, 0x108A6), (0x108B0, 0x108DF),
   (0x108F3, 0x108F3), (0x108F6, 0x108FA), (0x1091C, 0x1091E), (0x1093A, 0x1093E),
   (0x1095A, 0x1097F), (0x109B8, 0x109BB), (0x109D0, 0x109D1), (0x10A04, 0x10A04),
   (0x10A07, 0x10A0B), (0x10A14, 0x10A14), (0x10A18, 0x10A18), (0x10A36, 0x10A37),
   (0x10A3B, 0x10A3E), (0x10A49, 0x10A4F), (0x10A59, 0x10A5F), (0x10AA0, 0x10ABF),
   (0x10AE7, 0x10AEA), (0x10AF7, 0x10AFF), (0x10B36, 0x10B38), (0x10B56, 0x10B57),
   (0x10B73, 0x10B77), (0x10B92, 0x10B98), (0x10B9D, 0x10BA8), (0x10BB0, 0x10BFF),
   (0x10C49, 0x10C7F), (0x10CB3, 0x10CBF), (0x10CF3, 0x10CF9), (0x10D28, 0x10D2F),
   (0x10D3A, 0x10D3F), (0x10D66, 0x10D68), (0x10D86, 0x10D8D), (0x10D90, 0x10E5F),
   (0x10E7F, 0x10E7F), (0x10EAA, 0x10EAA), (0x10EAE, 0x10EAF), (0x10EB2, 0x10EC1),
   (0x10EC8, 0x10ECF), (0x10ED9, 0x10EF9), (0x10F28, 0x10F2F), (0x10F5A, 0x10F6F),
   (0x10F8A, 0x10FAF), (0x10FCC, 0x10FDF), (0x10FF7, 0x10FFF), (0x1104E, 0x11051),
   (0x11076, 0x1107E), (0x110BD, 0x110BD), (0x110C3, 0x110CF), (0x110E9, 0x110EF),
   (0x110FA, 0x110FF), (0x11135, 0x11135), (0x11148, 0x1114F), (0x11177, 0x1117F),
   (0x111E0, 0x111E0), (0x111F5, 0x111FF), (0x11212, 0x11212), (0x11242, 0x1127F),
   (0x11287, 0x11287), (0x11289, 0x11289), (0x1128E, 0x1128E), (0x1129E, 0x1129E),
   (0x112AA, 0x112AF), (0x112EB, 0x112EF), (0x112FA, 0x112FF), (0x11304, 0x11304),
   (0x1130D, 0x1130E), (0x11311, 0x11312), (0x11329, 0x11329), (0x11331, 0x11331),
   (0x11334, 0x11334), (0x1133A, 0x1133A), (0x11345, 0x11346), (0x11349, 0x1134A),
   (0x1134E, 0x1134F), (0x11351, 0x11356), (0x11358, 0x1135C), (0x11364, 0x11365),
   (0x1136D, 0x1136F), (0x11375, 0x1137F), (0x1138A, 0x1138A), (0x1138C, 0x1138D),
   (0x1138F, 0x1138F), (0x113B6, 0x113B6), (0x113C1, 0x113C1), (0x113C3, 0x113C4),
   (0x113C6, 0x113C6), (0x113CB, 0x113CB), (0x113D6, 0x113D6), (0x113D9, 0x113E0),
   (0x113E3, 0x113FF), (0x1145C, 0x1145C), (0x11462, 0x1147F), (0x114C8, 0x114CF),
   (0x114DA, 0x1157F), (0x115B6, 0x115B7), (0x115DE, 0x115FF), (0x11645, 0x1164F),
   (0x1165A, 0x1165F), (0x1166D, 0x1167F), (0x116BA, 0x116BF), (0x116CA, 0x116CF),
   (0x116E4, 0x116FF), (0x1171B, 0x1171C), (0x1172C, 0x1172F), (0x11747, 0x117FF),
   (0x1183C, 0x1189F), (0x118F3, 0x118FE), (0x11907, 0x11908), (0x1190A, 0x1190B),
   (0x11914, 0x11914), (0x11917, 0x11917), (0x11936, 0x11936), (0x11939, 0x1193A),
   (0x11947, 0x1194F), (0x1195A, 0x1199F), (0x119A8, 0x119A9), (0x119D8, 0x119D9),
   (0x119E5, 0x119FF), (0x11A48, 0x11A4F), (0x11AA3, 0x11AAF), (0x11AF9, 0x11AFF),
   (0x11B0A, 0x11B5F), (0x11B68, 0x11BBF), (0x11BE2, 0x11BEF), (0x11BFA, 0x11BFF),
   (0x11C09, 0x11C09), (0x11C37, 0x11C37), (0x11C46, 0x11C4F), (0x11C6D, 0x11C6F),
   (0x11C90, 0x11C91), (0x11CA8, 0x11CA8), (0x11CB7, 0x11CFF), (0x11D07, 0x11D07),
   (0x11D0A, 0x11D0A), (0x11D37, 0x11D39), (0x11D3B, 0x11D3B), (0x11D3E, 0x11D3E),
   (0x11D48, 0x11D4F), (0x11D5A, 0x11D5F), (0x11D66, 0x11D66), (0x11D69, 0x11D69),
   (0x11D8F, 0x11D8F), (0x11D92, 0x11D92), (0x11D99, 0x11D9F), (0x11DAA, 0x11DAF),
   (0x11DDC, 0x11DDF), (0x11DEA, 0x11EDF), (0x11EF9, 0x11EFF), (0x11F11, 0x11F11),
   (0x11F3B, 0x11F3D), (0x11F5B, 0x11FAF), (0x11FB1, 0x11FBF), (0x11FF2, 0x11FFE),
   (0x1239A, 0x123FF), (0x1246F, 0x1246F), (0x12475, 0x1247F), (0x12544, 0x12F8F),
   (0x12FF3, 0x12FFF), (0x13430, 0x1343F), (0x13456, 0x1345F), (0x143FB, 0x143FF),
   (0x14647, 0x160FF), (0x1613A, 0x167FF), (0x16A39, 0x16A3F), (0x16A5F, 0x16A5F),
   (0x16A6A, 0x16A6D), (0x16ABF, 0x16ABF), (0x16ACA, 0x16ACF), (0x16AEE, 0x16AEF),
   (0x16AF6, 0x16AFF), (0x16B46, 0x16B4F), (0x16B5A, 0x16B5A), (0x16B62, 0x16B62),
   (0x16B78, 0x16B7C), (0x16B90, 0x16D3F), (0x16D7A, 0x16E3F), (0x16E9B, 0x16E9F),
   (0x16EB9, 0x16EBA), (0x16ED4, 0x16EFF), (0x16F4B, 0x16F4E), (0x16F88, 0x16F8E),
   (0x16FA0, 0x16FDF), (0x16FE5, 0x16FEF), (0x16FF7, 0x16FFF), (0x18CD6, 0x18CFE),
   (0x18D1F, 0x18D7F), (0x18DF3, 0x1AFEF), (0x1AFF4, 0x1AFF4), (0x1AFFC, 0x1AFFC),
   (0x1AFFF, 0x1AFFF), (0x1B123, 0x1B131), (0x1B133, 0x1B14F), (0x1B153, 0x1B154),
   (0x1B156, 0x1B163), (0x1B168, 0x1B16F), (0x1B2FC, 0x1BBFF), (0x1BC6B, 0x1BC6F),
   (0x1BC7D, 0x1BC7F), (0x1BC89, 0x1BC8F), (0x1BC9A, 0x1BC9B), (0x1BCA4, 0x1CBFF),
   (0x1CCFD, 0x1CCFF), (0x1CEB4, 0x1CEB9), (0x1CED1, 0x1CEDF), (0x1CEF1, 0x1CEFF),
   (0x1CF2E, 0x1CF2F), (0x1CF47, 0x1CF4F), (0x1CFC4, 0x1CFFF), (0x1D0F6, 0x1D0FF),
   (0x1D127, 0x1D128), (0x1D1EB, 0x1D1FF), (0x1D246, 0x1D2BF), (0x1D2D4, 0x1D2DF),
   (0x1D2F4, 0x1D2FF), (0x1D357, 0x1D35F), (0x1D379, 0x1D3FF), (0x1D455, 0x1D455),
   (0x1D49D, 0x1D49D), (0x1D4A0, 0x1D4A1), (0x1D4A3, 0x1D4A4), (0x1D4A7, 0x1D4A8),
   (0x1D4AD, 0x1D4AD), (0x1D4BA, 0x1D4BA), (0x1D4BC, 0x1D4BC), (0x1D4C4, 0x1D4C4),
   (0x1D506, 0x1D506), (0x1D50B, 0x1D50C), (0x1D515, 0x1D515), (0x1D51D, 0x1D51D),
   (0x1D53A, 0x1D53A), (0x1D53F, 0x1D53F), (0x1D545, 0x1D545), (0x1D547, 0x1D549),
   (0x1D551, 0x1D551), (0x1D6A6, 0x1D6A7), (0x1D7CC, 0x1D7CD), (0x1DA8C, 0x1DA9A),
   (0x1DAA0, 0x1DAA0), (0x1DAB0, 0x1DEFF), (0x1DF1F, 0x1DF24), (0x1DF2B, 0x1DFFF),
   (0x1E007, 0x1E007), (0x1E019, 0x1E01A), (0x1E022, 0x1E022), (0x1E025, 0x1E025),
   (0x1E02B, 0x1E02F), (0x1E06E, 0x1E08E), (0x1E090, 0x1E0FF), (0x1E12D, 0x1E12F),
   (0x1E13E, 0x1E13F), (0x1E14A, 0x1E14D), (0x1E150, 0x1E28F), (0x1E2AF, 0x1E2BF),
   (0x1E2FA, 0x1E2FE), (0x1E300, 0x1E4CF), (0x1E4FA, 0x1E5CF), (0x1E5FB, 0x1E5FE),
   (0x1E600, 0x1E6BF), (0x1E6DF, 0x1E6DF), (0x1E6F6, 0x1E6FD), (0x1E700, 0x1E7DF),
   (0x1E7E7, 0x1E7E7), (0x1E7EC, 0x1E7EC), (0x1E7EF, 0x1E7EF), (0x1E7FF, 0x1E7FF),
   (0x1E8C5, 0x1E8C6), (0x1E8D7, 0x1E8FF), (0x1E94C, 0x1E94F), (0x1E95A, 0x1E95D),
   (0x1E960, 0x1EC70), (0x1ECB5, 0x1ED00), (0x1ED3E, 0x1EDFF), (0x1EE04, 0x1EE04),
   (0x1EE20, 0x1EE20), (0x1EE23, 0x1EE23), (0x1EE25, 0x1EE26), (0x1EE28, 0x1EE28),
   (0x1EE33, 0x1EE33), (0x1EE38, 0x1EE38), (0x1EE3A, 0x1EE3A), (0x1EE3C, 0x1EE41),
   (0x1EE43, 0x1EE46), (0x1EE48, 0x1EE48), (0x1EE4A, 0x1EE4A), (0x1EE4C, 0x1EE4C),
   (0x1EE50, 0x1EE50), (0x1EE53, 0x1EE53), (0x1EE55, 0x1EE56), (0x1EE58, 0x1EE58),
   (0x1EE5A, 0x1EE5A), (0x1EE5C, 0x1EE5C), (0x1EE5E, 0x1EE5E), (0x1EE60, 0x1EE60),
   (0x1EE63, 0x1EE63), (0x1EE65, 0x1EE66), (0x1EE6B, 0x1EE6B), (0x1EE73, 0x1EE73),
   (0x1EE78, 0x1EE78), (0x1EE7D, 0x1EE7D), (0x1EE7F, 0x1EE7F), (0x1EE8A, 0x1EE8A),
   (0x1EE9C, 0x1EEA0), (0x1EEA4, 0x1EEA4), (0x1EEAA, 0x1EEAA), (0x1EEBC, 0x1EEEF),
   (0x1EEF2, 0x1EFFF), (0x1F02C, 0x1F02F), (0x1F094, 0x1F09F), (0x1F0AF, 0x1F0B0),
   (0x1F0C0, 0x1F0C0), (0x1F0D0, 0x1F0D0), (0x1F0F6, 0x1F100), (0x1F1AE, 0x1F1E5),
   (0x1F203, 0x1F20F), (0x1F23C, 0x1F23F), (0x1F249, 0x1F24F), (0x1F252, 0x1F25F),
   (0x1F266, 0x1F2FF), (0x1F6D9, 0x1F6DB), (0x1F6ED, 0x1F6EF), (0x1F6FD, 0x1F6FF),
   (0x1F7DA, 0x1F7DF), (0x1F7EC, 0x1F7EF), (0x1F7F1, 0x1F7FF), (0x1F80C, 0x1F80F),
   (0x1F848, 0x1F84F), (0x1F85A, 0x1F85F), (0x1F888, 0x1F88F), (0x1F8AE, 0x1F8AF),
   (0x1F8BC, 0x1F8BF), (0x1F8C2, 0x1F8CF), (0x1F8D9, 0x1F8FF), (0x1FA58, 0x1FA5F),
   (0x1FA6E, 0x1FA6F), (0x1FA7D, 0x1FA7F), (0x1FA8B, 0x1FA8D), (0x1FAC7, 0x1FAC7),
   (0x1FAC9, 0x1FACC), (0x1FADD, 0x1FADE), (0x1FAEB, 0x1FAEE), (0x1FAF9, 0x1FAFF),
   (0x1FB93, 0x1FB93), (0x1FBFB, 0x1FFFF), (0x2A6E0, 0x2A6FF), (0x2B81E, 0x2B81F),
   (0x2CEAE, 0x2CEAF), (0x2EBE1, 0x2EBEF), (0x2EE5E, 0x2F7FF), (0x2FA1E, 0x2FFFF),
   (0x3134B, 0x3134F), (0x3347A, 0xE00FF), (0xE01F0, 0x10FFFF)]

/-- The ranges of characters that are left out. -/
def ignoredRanges : List (Nat × Nat) := [
   (0xAD, 0xAD), (0x34F, 0x34F), (0x115F, 0x1160), (0x17B4, 0x17B5), (0x180B, 0x180F),
   (0x200B, 0x200B), (0x2060, 0x2064), (0x206A, 0x206F), (0x3164, 0x3164), (0xFE00, 0xFE0F),
   (0xFEFF, 0xFEFF), (0xFFA0, 0xFFA0), (0x1BCA0, 0x1BCA3), (0x1D173, 0x1D17A), (0xE0100, 0xE01EF)]

/-- The ranges of capital letters that count as themselves: those of Cherokee. -/
def keptRanges : List (Nat × Nat) := [(0x13A0, 0x13F5)]

/-- The characters with a form of one character that is no lower case form. -/
def foldRuns : CharRuns := [
   (0xAA, "a"), (0xB2, "23"), (0xB5, "μ"), (0xB9, "1o"), (0x17F, "s"), (0x2B0, "hɦjrɹɻʁwy"),
   (0x2E0, "ɣlsxʕ"), (0x345, "ι"), (0x3D0, "βθυύϋφπ"), (0x3F0, "κρσ"), (0x3F5, "ε"), (0x3F9, "σ"),
   (0xF0C, "་"), (0x10FC, "ნ"), (0x13F8, "ᏰᏱᏲᏳᏴᏵ"), (0x1C80, "вдосттъѣꙋ"), (0x1D2C, "aæb"),
   (0x1D30, "deǝghijklmn"), (0x1D3C, "oȣprtuwaɐɑᴂbdeəɛɜg"),
   (0x1D4F, "kmŋoɔᴖᴗptuᴝɯvᴥβγδφχiruvβγρφχ"), (0x1D78, "н"),
   (0x1D9B, "ɒcɕðɜfɟɡɥɨɩɪᵻʝɭᶅʟɱɰɲɳɴɵɸʂʃƫʉʊᴜʋʌzʐʑʒθ"), (0x1E9B, "ṡ"), (0x2011, "‐"),
   (0x2070, "0i"), (0x2074, "456789+−=()n0123456789+−=()"), (0x2090, "aeoxəhklmnpst"),
   (0x2102, "c"), (0x2107, "ɛ"), (0x210A, "ghhhhħiill"), (0x2115, "n"), (0x2119, "pqrrr"),
   (0x2124, "z"), (0x2128, "z"), (0x212C, "bc"), (0x212F, "eef"),
   (0x2133, "mo\u05d0\u05d1\u05d2\u05d3i"), (0x213C, "πγγπ∑"), (0x2145, "ddeij"), (0x2160, "i"),
   (0x2164, "v"), (0x2169, "x"), (0x216C, "lcdmi"), (0x2174, "v"), (0x2179, "x"),
   (0x217C, "lcdm"), (0x2460, "123456789"),
   (0x24B6, "abcdefghijklmnopqrstuvwxyzabcdefghijklmnopqrstuvwxyz0"), (0x2C7C, "jv"),
   (0x2D6F, "ⵡ"), (0x2E9F, "母"), (0x2EF3, "龟"),
   (0x2F00, "一丨丶丿乙亅二亠人儿入八冂冖冫几凵刀力勹匕匚匸十卜卩厂厶又口囗土士夂夊夕大女子宀寸小尢尸屮山巛工己巾干幺广廴廾弋弓彐彡彳心戈戶手支攴文斗斤方无日曰月木欠止歹"),
   (0x2F4E, "殳毋比毛氏气水火爪父爻爿片牙牛犬玄玉瓜瓦甘生用田疋疒癶白皮皿目矛矢石示禸禾穴立竹米糸缶网羊羽老而耒耳聿肉臣自至臼舌舛舟艮色艸虍虫血行衣襾見角言谷豆豕豸貝赤走"),
   (0x2F9C, "足身車辛辰辵邑酉釆里金長門阜隶隹雨靑非面革韋韭音頁風飛食首香馬骨高髟鬥鬯鬲鬼魚鳥鹵鹿麥麻黃黍黑黹黽鼎鼓鼠鼻齊齒龍龜龠"), (0x3002, "."),
   (0x3036, "〒"), (0x3038, "十卄卅"),
   (0x3131, "ᄀᄁᆪᄂᆬᆭᄃᄄᄅᆰᆱᆲᆳᆴᆵᄚᄆᄇᄈᄡᄉᄊᄋᄌᄍᄎᄏᄐᄑ하ᅢᅣᅤᅥᅦᅧᅨᅩᅪᅫᅬᅭᅮᅯᅰᅱᅲᅳᅴᅵ"),
   (0x3165, "ᄔᄕᇇᇈᇌᇎᇓᇗᇙᄜᇝᇟᄝᄞᄠᄢᄣᄧᄩᄫᄬᄭᄮᄯᄲᄶᅀᅇᅌᇱᇲᅗᅘᅙᆄᆅᆈᆑᆒᆔᆞᆡ"), (0x3192, "一二三四上中下甲乙丙丁天地人"),
   (0x3244, "問幼文箏"), (0x3260, "ᄀᄂᄃᄅᄆᄇᄉᄋᄌᄎᄏᄐᄑᄒ가나다라마바사아자차카타파하"), (0x327E, "우"),
   (0x3280, "一二三四五六七八九十月火水木金土日株有社名特財祝労秘男女適優印注項休写正上中下左右医宗学監企資協夜"),
   (0x32D0, "アイウエオカキクケコサシスセソタチツテトナニヌネノハヒフヘホマミムメモヤユヨラリルレロワヰヱヲ"), (0xA69C, "ъь"), (0xA770, "ꝯ"),
   (0xA7F1, "scfq"), (0xA7F8, "ħœ"), (0xAB5C, "ꜧꬷɫꭒ"), (0xAB69, "ʍ"),
   (0xAB70, "ᎠᎡᎢᎣᎤᎥᎦᎧᎨᎩᎪᎫᎬᎭᎮᎯᎰᎱᎲᎳᎴᎵᎶᎷᎸᎹᎺᎻᎼᎽᎾᎿᏀᏁᏂᏃᏄᏅᏆᏇᏈᏉᏊᏋᏌᏍᏎᏏᏐᏑᏒᏓᏔᏕᏖᏗᏘᏙᏚᏛᏜᏝᏞᏟᏠᏡᏢᏣᏤᏥᏦᏧᏨᏩᏪᏫᏬᏭ"),
   (0xABBE, "ᏮᏯ"), (0xFB20, "\u05e2\u05d0\u05d3\u05d4\u05db\u05dc\u05dd\u05e8\u05ea+"),
   (0xFB50, "\u0671\u0671\u067b\u067b\u067b\u067b\u067e\u067e\u067e\u067e\u0680\u0680\u0680"),
   (0xFB5D, "\u0680\u067a\u067a\u067a\u067a\u067f\u067f\u067f\u067f\u0679\u0679\u0679\u0679"),
   (0xFB6A, "\u06a4\u06a4\u06a4\u06a4\u06a6\u06a6\u06a6\u06a6\u0684\u0684\u0684\u0684\u0683"),
   (0xFB77, "\u0683\u0683\u0683\u0686\u0686\u0686\u0686\u0687\u0687\u0687\u0687\u068d\u068d"),
   (0xFB84, "\u068c\u068c\u068e\u068e\u0688\u0688\u0698\u0698\u0691\u0691\u06a9\u06a9\u06a9"),
   (0xFB91, "\u06a9\u06af\u06af\u06af\u06af\u06b3\u06b3\u06b3\u06b3\u06b1\u06b1\u06b1\u06b1"),
   (0xFB9E, "\u06ba\u06ba\u06bb\u06bb\u06bb\u06bb\u06c0\u06c0\u06c1\u06c1\u06c1\u06c1\u06be"),
   (0xFBAB, "\u06be\u06be\u06be\u06d2\u06d2\u06d3\u06d3"),
   (0xFBD3, "\u06ad\u06ad\u06ad\u06ad\u06c7\u06c7\u06c6\u06c6\u06c8\u06c8"),
   (0xFBDE, "\u06cb\u06cb\u06c5\u06c5\u06c9\u06c9\u06d0\u06d0\u06d0\u06d0\u0649\u0649"),
   (0xFBFC, "\u06cc\u06cc\u06cc\u06cc"), (0xFE10, ",、"), (0xFE13, ":;!?〖〗"),
   (0xFE31, "—–__(){}〔〕【】《》〈〉「」『』"), (0xFE47, "[]"), (0xFE4D, "___,、"),
   (0xFE54, ";:?!—(){}〔〕#&*+-<>="), (0xFE68, "\\$%@"),
   (0xFE80, "\u0621\u0622\u0622\u0623\u0623\u0624\u0624\u0625\u0625\u0626\u0626\u0626\u0626"),
   (0xFE8D, "\u0627\u0627\u0628\u0628\u0628\u0628\u0629\u0629\u062a\u062a\u062a\u062a\u062b"),
   (0xFE9A, "\u062b\u062b\u062b\u062c\u062c\u062c\u062c\u062d\u062d\u062d\u062d\u062e\u062e"),
   (0xFEA7, "\u062e\u062e\u062f\u062f\u0630\u0630\u0631\u0631\u0632\u0632\u0633\u0633\u0633"),
   (0xFEB4, "\u0633\u0634\u0634\u0634\u0634\u0635\u0635\u0635\u0635\u0636\u0636\u0636\u0636"),
   (0xFEC1, "\u0637\u0637\u0637\u0637\u0638\u0638\u0638\u0638\u0639\u0639\u0639\u0639\u063a"),
   (0xFECE, "\u063a\u063a\u063a\u0641\u0641\u0641\u0641\u0642\u0642\u0642\u0642\u0643\u0643"),
   (0xFEDB, "\u0643\u0643\u0644\u0644\u0644\u0644\u0645\u0645\u0645\u0645\u0646\u0646\u0646"),
   (0xFEE8, "\u0646\u0647\u0647\u0647\u0647\u0648\u0648\u0649\u0649\u064a\u064a\u064a\u064a"),
   (0xFF01, "!\"#$%&'()*+,-./0123456789:;<=>?@abcdefghijklmnopqrstuvwxyz[\\]^_`abcdefghijkl"),
   (0xFF4D, "mnopqrstuvwxyz{|}~⦅⦆.「」、・ヲァィゥェォャュョッーアイウエオカキクケコサシスセソタチツテトナニヌネノハヒフヘホマミムメモヤユヨラリルレ"),
   (0xFF9B, "ロワン\u3099\u309a"), (0xFFA1, "ᄀᄁᆪᄂᆬᆭᄃᄄᄅᆰᆱᆲᆳᆴᆵᄚᄆᄇᄈᄡᄉᄊᄋᄌᄍᄎᄏᄐᄑᄒ"), (0xFFC2, "ᅡᅢᅣᅤᅥᅦ"),
   (0xFFCA, "ᅧᅨᅩᅪᅫᅬ"), (0xFFD2, "ᅭᅮᅯᅰᅱᅲ"), (0xFFDA, "ᅳᅴᅵ"), (0xFFE0, "¢£¬"), (0xFFE4, "¦¥₩"),
   (0xFFE8, "│←↑→↓■○"), (0x10781, "ːˑæʙɓ"),
   (0x10787, "ʣꭦʥʤɖɗᶑɘɞʩɤɢɠʛħʜɧʄʪʫɬ𝼄ꞎɮ𝼅ʎ𝼆øɶɷqɺ𝼈ɽɾʀʨʦꭧʧʈⱱ"), (0x107B2, "ʏʡʢʘǀǁǂ𝼊𝼞"),
   (0x1CCD6, "abcdefghijklmnopqrstuvwxyz0123456789"),
   (0x1D400, "abcdefghijklmnopqrstuvwxyzabcdefghijklmnopqrstuvwxyzabcdefghijklmnopqrstuvwxyz"),
   (0x1D44E, "abcdefg"),
   (0x1D456, "ijklmnopqrstuvwxyzabcdefghijklmnopqrstuvwxyzabcdefghijklmnopqrstuvwxyza"),
   (0x1D49E, "cd"), (0x1D4A2, "g"), (0x1D4A5, "jk"), (0x1D4A9, "nopq"), (0x1D4AE, "stuvwxyzabcd"),
   (0x1D4BB, "f"), (0x1D4BD, "hijklmn"),
   (0x1D4C5, "pqrstuvwxyzabcdefghijklmnopqrstuvwxyzabcdefghijklmnopqrstuvwxyzab"),
   (0x1D507, "defg"), (0x1D50D, "jklmnopq"), (0x1D516, "stuvwxy"),
   (0x1D51E, "abcdefghijklmnopqrstuvwxyzab"), (0x1D53B, "defg"), (0x1D540, "ijklm"),
   (0x1D546, "o"), (0x1D54A, "stuvwxy"),
   (0x1D552, "abcdefghijklmnopqrstuvwxyzabcdefghijklmnopqrstuvwxyzabcdefghijklmnopqrstuvwxyz"),
   (0x1D5A0, "abcdefghijklmnopqrstuvwxyzabcdefghijklmnopqrstuvwxyzabcdefghijklmnopqrstuvwxyz"),
   (0x1D5EE, "abcdefghijklmnopqrstuvwxyzabcdefghijklmnopqrstuvwxyzabcdefghijklmnopqrstuvwxyz"),
   (0x1D63C, "abcdefghijklmnopqrstuvwxyzabcdefghijklmnopqrstuvwxyzabcdefghijklmnopqrstuvwxyz"),
   (0x1D68A, "abcdefghijklmnopqrstuvwxyzıȷ"),
   (0x1D6A8, "αβγδεζηθικλμνξοπρθστυφχψω∇αβγδεζηθικλμνξοπρσστυφχψω∂εθκφρπαβγδεζηθικλμνξοπρθστ"),
   (0x1D6F6, "υφχψω∇αβγδεζηθικλμνξοπρσστυφχψω∂εθκφρπαβγδεζηθικλμνξοπρθστυφχψω∇αβγδεζηθικλμνξ"),
   (0x1D744, "οπρσστυφχψω∂εθκφρπαβγδεζηθικλμνξοπρθστυφχψω∇αβγδεζηθικλμνξοπρσστυφχψω∂εθκφρπαβ"),
   (0x1D792, "γδεζηθικλμνξοπρθστυφχψω∇αβγδεζηθικλμνξοπρσστυφχψω∂εθκφρπϝϝ"),
   (0x1D7CE, "01234567890123456789012345678901234567890123456789"),
   (0x1E030, "абвгдежзиклмопрстуфхцчшыэюꚉәіјөүӏабвгдежзиклопсуфхцчшъыґіѕџҫꙑұ"),
   (0x1EE00, "\u0627\u0628\u062c\u062f"),
   (0x1EE05, "\u0648\u0632\u062d\u0637\u064a\u0643\u0644\u0645\u0646\u0633\u0639\u0641\u0635"),
   (0x1EE12, "\u0642\u0631\u0634\u062a\u062b\u062e\u0630\u0636\u0638\u063a\u066e\u06ba\u06a1"),
   (0x1EE1F, "\u066f"), (0x1EE21, "\u0628\u062c"), (0x1EE24, "\u0647"), (0x1EE27, "\u062d"),
   (0x1EE29, "\u064a\u0643\u0644\u0645\u0646\u0633\u0639\u0641\u0635\u0642"),
   (0x1EE34, "\u0634\u062a\u062b\u062e"), (0x1EE39, "\u0636"), (0x1EE3B, "\u063a"),
   (0x1EE42, "\u062c"), (0x1EE47, "\u062d"), (0x1EE49, "\u064a"), (0x1EE4B, "\u0644"),
   (0x1EE4D, "\u0646\u0633\u0639"), (0x1EE51, "\u0635\u0642"), (0x1EE54, "\u0634"),
   (0x1EE57, "\u062e"), (0x1EE59, "\u0636"), (0x1EE5B, "\u063a"), (0x1EE5D, "\u06ba"),
   (0x1EE5F, "\u066f"), (0x1EE61, "\u0628\u062c"), (0x1EE64, "\u0647"),
   (0x1EE67, "\u062d\u0637\u064a\u0643"), (0x1EE6C, "\u0645\u0646\u0633\u0639\u0641\u0635\u0642"),
   (0x1EE74, "\u0634\u062a\u062b\u062e"), (0x1EE79, "\u0636\u0638\u063a\u066e"),
   (0x1EE7E, "\u06a1"), (0x1EE80, "\u0627\u0628\u062c\u062f\u0647\u0648\u0632\u062d\u0637\u064a"),
   (0x1EE8B, "\u0644\u0645\u0646\u0633\u0639\u0641\u0635\u0642\u0631\u0634\u062a\u062b\u062e"),
   (0x1EE98, "\u0630\u0636\u0638\u063a"), (0x1EEA1, "\u0628\u062c\u062f"),
   (0x1EEA5, "\u0648\u0632\u062d\u0637\u064a"),
   (0x1EEAB, "\u0644\u0645\u0646\u0633\u0639\u0641\u0635\u0642\u0631\u0634\u062a\u062b\u062e"),
   (0x1EEB8, "\u0630\u0636\u0638\u063a"), (0x1F12B, "cr"),
   (0x1F130, "abcdefghijklmnopqrstuvwxyz"), (0x1F202, "サ"),
   (0x1F210, "手字双デ二多解天交映無料前後再新初終生販声吹演投捕一三遊左中右指走打禁空合満有月申割営配"), (0x1F250, "得可"),
   (0x1FBF0, "0123456789")]

/-- The characters with a form of several characters. -/
def foldSpecial : List (Nat × List Nat) := [
   (0xBC, [0x31, 0x2044, 0x34]), (0xBD, [0x31, 0x2044, 0x32]), (0xBE, [0x33, 0x2044, 0x34]),
   (0x132, [0x69, 0x6A]), (0x133, [0x69, 0x6A]), (0x13F, [0x6C, 0xB7]), (0x140, [0x6C, 0xB7]),
   (0x149, [0x2BC, 0x6E]), (0x1C4, [0x64, 0x17E]), (0x1C5, [0x64, 0x17E]), (0x1C6, [0x64, 0x17E]),
   (0x1C7, [0x6C, 0x6A]), (0x1C8, [0x6C, 0x6A]), (0x1C9, [0x6C, 0x6A]), (0x1CA, [0x6E, 0x6A]),
   (0x1CB, [0x6E, 0x6A]), (0x1CC, [0x6E, 0x6A]), (0x1F1, [0x64, 0x7A]), (0x1F2, [0x64, 0x7A]),
   (0x1F3, [0x64, 0x7A]), (0x587, [0x565, 0x582]), (0x675, [0x627, 0x674]),
   (0x676, [0x648, 0x674]), (0x677, [0x6C7, 0x674]), (0x678, [0x64A, 0x674]),
   (0xE33, [0xE4D, 0xE32]), (0xEB3, [0xECD, 0xEB2]), (0xEDC, [0xEAB, 0xE99]),
   (0xEDD, [0xEAB, 0xEA1]), (0xF77, [0xFB2, 0xF71, 0xF80]), (0xF79, [0xFB3, 0xF71, 0xF80]),
   (0x1E9A, [0x61, 0x2BE]), (0x1F80, [0x1F00, 0x3B9]), (0x1F81, [0x1F01, 0x3B9]),
   (0x1F82, [0x1F02, 0x3B9]), (0x1F83, [0x1F03, 0x3B9]), (0x1F84, [0x1F04, 0x3B9]),
   (0x1F85, [0x1F05, 0x3B9]), (0x1F86, [0x1F06, 0x3B9]), (0x1F87, [0x1F07, 0x3B9]),
   (0x1F88, [0x1F00, 0x3B9]), (0x1F89, [0x1F01, 0x3B9]), (0x1F8A, [0x1F02, 0x3B9]),
   (0x1F8B, [0x1F03, 0x3B9]), (0x1F8C, [0x1F04, 0x3B9]), (0x1F8D, [0x1F05, 0x3B9]),
   (0x1F8E, [0x1F06, 0x3B9]), (0x1F8F, [0x1F07, 0x3B9]), (0x1F90, [0x1F20, 0x3B9]),
   (0x1F91, [0x1F21, 0x3B9]), (0x1F92, [0x1F22, 0x3B9]), (0x1F93, [0x1F23, 0x3B9]),
   (0x1F94, [0x1F24, 0x3B9]), (0x1F95, [0x1F25, 0x3B9]), (0x1F96, [0x1F26, 0x3B9]),
   (0x1F97, [0x1F27, 0x3B9]), (0x1F98, [0x1F20, 0x3B9]), (0x1F99, [0x1F21, 0x3B9]),
   (0x1F9A, [0x1F22, 0x3B9]), (0x1F9B, [0x1F23, 0x3B9]), (0x1F9C, [0x1F24, 0x3B9]),
   (0x1F9D, [0x1F25, 0x3B9]), (0x1F9E, [0x1F26, 0x3B9]), (0x1F9F, [0x1F27, 0x3B9]),
   (0x1FA0, [0x1F60, 0x3B9]), (0x1FA1, [0x1F61, 0x3B9]), (0x1FA2, [0x1F62, 0x3B9]),
   (0x1FA3, [0x1F63, 0x3B9]), (0x1FA4, [0x1F64, 0x3B9]), (0x1FA5, [0x1F65, 0x3B9]),
   (0x1FA6, [0x1F66, 0x3B9]), (0x1FA7, [0x1F67, 0x3B9]), (0x1FA8, [0x1F60, 0x3B9]),
   (0x1FA9, [0x1F61, 0x3B9]), (0x1FAA, [0x1F62, 0x3B9]), (0x1FAB, [0x1F63, 0x3B9]),
   (0x1FAC, [0x1F64, 0x3B9]), (0x1FAD, [0x1F65, 0x3B9]), (0x1FAE, [0x1F66, 0x3B9]),
   (0x1FAF, [0x1F67, 0x3B9]), (0x1FB2, [0x1F70, 0x3B9]), (0x1FB3, [0x3B1, 0x3B9]),
   (0x1FB4, [0x3AC, 0x3B9]), (0x1FB7, [0x1FB6, 0x3B9]), (0x1FBC, [0x3B1, 0x3B9]),
   (0x1FC2, [0x1F74, 0x3B9]), (0x1FC3, [0x3B7, 0x3B9]), (0x1FC4, [0x3AE, 0x3B9]),
   (0x1FC7, [0x1FC6, 0x3B9]), (0x1FCC, [0x3B7, 0x3B9]), (0x1FF2, [0x1F7C, 0x3B9]),
   (0x1FF3, [0x3C9, 0x3B9]), (0x1FF4, [0x3CE, 0x3B9]), (0x1FF7, [0x1FF6, 0x3B9]),
   (0x1FFC, [0x3C9, 0x3B9]), (0x2033, [0x2032, 0x2032]), (0x2034, [0x2032, 0x2032, 0x2032]),
   (0x2036, [0x2035, 0x2035]), (0x2037, [0x2035, 0x2035, 0x2035]), (0x203C, [0x21, 0x21]),
   (0x2047, [0x3F, 0x3F]), (0x2048, [0x3F, 0x21]), (0x2049, [0x21, 0x3F]),
   (0x2057, [0x2032, 0x2032, 0x2032, 0x2032]), (0x20A8, [0x72, 0x73]),
   (0x2100, [0x61, 0x2F, 0x63]), (0x2101, [0x61, 0x2F, 0x73]), (0x2103, [0xB0, 0x63]),
   (0x2105, [0x63, 0x2F, 0x6F]), (0x2106, [0x63, 0x2F, 0x75]), (0x2109, [0xB0, 0x66]),
   (0x2116, [0x6E, 0x6F]), (0x2120, [0x73, 0x6D]), (0x2121, [0x74, 0x65, 0x6C]),
   (0x2122, [0x74, 0x6D]), (0x213B, [0x66, 0x61, 0x78]), (0x2150, [0x31, 0x2044, 0x37]),
   (0x2151, [0x31, 0x2044, 0x39]), (0x2152, [0x31, 0x2044, 0x31, 0x30]),
   (0x2153, [0x31, 0x2044, 0x33]), (0x2154, [0x32, 0x2044, 0x33]), (0x2155, [0x31, 0x2044, 0x35]),
   (0x2156, [0x32, 0x2044, 0x35]), (0x2157, [0x33, 0x2044, 0x35]), (0x2158, [0x34, 0x2044, 0x35]),
   (0x2159, [0x31, 0x2044, 0x36]), (0x215A, [0x35, 0x2044, 0x36]), (0x215B, [0x31, 0x2044, 0x38]),
   (0x215C, [0x33, 0x2044, 0x38]), (0x215D, [0x35, 0x2044, 0x38]), (0x215E, [0x37, 0x2044, 0x38]),
   (0x215F, [0x31, 0x2044]), (0x2161, [0x69, 0x69]), (0x2162, [0x69, 0x69, 0x69]),
   (0x2163, [0x69, 0x76]), (0x2165, [0x76, 0x69]), (0x2166, [0x76, 0x69, 0x69]),
   (0x2167, [0x76, 0x69, 0x69, 0x69]), (0x2168, [0x69, 0x78]), (0x216A, [0x78, 0x69]),
   (0x216B, [0x78, 0x69, 0x69]), (0x2171, [0x69, 0x69]), (0x2172, [0x69, 0x69, 0x69]),
   (0x2173, [0x69, 0x76]), (0x2175, [0x76, 0x69]), (0x2176, [0x76, 0x69, 0x69]),
   (0x2177, [0x76, 0x69, 0x69, 0x69]), (0x2178, [0x69, 0x78]), (0x217A, [0x78, 0x69]),
   (0x217B, [0x78, 0x69, 0x69]), (0x2189, [0x30, 0x2044, 0x33]), (0x222C, [0x222B, 0x222B]),
   (0x222D, [0x222B, 0x222B, 0x222B]), (0x222F, [0x222E, 0x222E]),
   (0x2230, [0x222E, 0x222E, 0x222E]), (0x2469, [0x31, 0x30]), (0x246A, [0x31, 0x31]),
   (0x246B, [0x31, 0x32]), (0x246C, [0x31, 0x33]), (0x246D, [0x31, 0x34]), (0x246E, [0x31, 0x35]),
   (0x246F, [0x31, 0x36]), (0x2470, [0x31, 0x37]), (0x2471, [0x31, 0x38]), (0x2472, [0x31, 0x39]),
   (0x2473, [0x32, 0x30]), (0x2474, [0x28, 0x31, 0x29]), (0x2475, [0x28, 0x32, 0x29]),
   (0x2476, [0x28, 0x33, 0x29]), (0x2477, [0x28, 0x34, 0x29]), (0x2478, [0x28, 0x35, 0x29]),
   (0x2479, [0x28, 0x36, 0x29]), (0x247A, [0x28, 0x37, 0x29]), (0x247B, [0x28, 0x38, 0x29]),
   (0x247C, [0x28, 0x39, 0x29]), (0x247D, [0x28, 0x31, 0x30, 0x29]),
   (0x247E, [0x28, 0x31, 0x31, 0x29]), (0x247F, [0x28, 0x31, 0x32, 0x29]),
   (0x2480, [0x28, 0x31, 0x33, 0x29]), (0x2481, [0x28, 0x31, 0x34, 0x29]),
   (0x2482, [0x28, 0x31, 0x35, 0x29]), (0x2483, [0x28, 0x31, 0x36, 0x29]),
   (0x2484, [0x28, 0x31, 0x37, 0x29]), (0x2485, [0x28, 0x31, 0x38, 0x29]),
   (0x2486, [0x28, 0x31, 0x39, 0x29]), (0x2487, [0x28, 0x32, 0x30, 0x29]),
   (0x249C, [0x28, 0x61, 0x29]), (0x249D, [0x28, 0x62, 0x29]), (0x249E, [0x28, 0x63, 0x29]),
   (0x249F, [0x28, 0x64, 0x29]), (0x24A0, [0x28, 0x65, 0x29]), (0x24A1, [0x28, 0x66, 0x29]),
   (0x24A2, [0x28, 0x67, 0x29]), (0x24A3, [0x28, 0x68, 0x29]), (0x24A4, [0x28, 0x69, 0x29]),
   (0x24A5, [0x28, 0x6A, 0x29]), (0x24A6, [0x28, 0x6B, 0x29]), (0x24A7, [0x28, 0x6C, 0x29]),
   (0x24A8, [0x28, 0x6D, 0x29]), (0x24A9, [0x28, 0x6E, 0x29]), (0x24AA, [0x28, 0x6F, 0x29]),
   (0x24AB, [0x28, 0x70, 0x29]), (0x24AC, [0x28, 0x71, 0x29]), (0x24AD, [0x28, 0x72, 0x29]),
   (0x24AE, [0x28, 0x73, 0x29]), (0x24AF, [0x28, 0x74, 0x29]), (0x24B0, [0x28, 0x75, 0x29]),
   (0x24B1, [0x28, 0x76, 0x29]), (0x24B2, [0x28, 0x77, 0x29]), (0x24B3, [0x28, 0x78, 0x29]),
   (0x24B4, [0x28, 0x79, 0x29]), (0x24B5, [0x28, 0x7A, 0x29]),
   (0x2A0C, [0x222B, 0x222B, 0x222B, 0x222B]), (0x2A74, [0x3A, 0x3A, 0x3D]),
   (0x2A75, [0x3D, 0x3D]), (0x2A76, [0x3D, 0x3D, 0x3D]), (0x309F, [0x3088, 0x308A]),
   (0x30FF, [0x30B3, 0x30C8]), (0x3200, [0x28, 0x1100, 0x29]), (0x3201, [0x28, 0x1102, 0x29]),
   (0x3202, [0x28, 0x1103, 0x29]), (0x3203, [0x28, 0x1105, 0x29]), (0x3204, [0x28, 0x1106, 0x29]),
   (0x3205, [0x28, 0x1107, 0x29]), (0x3206, [0x28, 0x1109, 0x29]), (0x3207, [0x28, 0x110B, 0x29]),
   (0x3208, [0x28, 0x110C, 0x29]), (0x3209, [0x28, 0x110E, 0x29]), (0x320A, [0x28, 0x110F, 0x29]),
   (0x320B, [0x28, 0x1110, 0x29]), (0x320C, [0x28, 0x1111, 0x29]), (0x320D, [0x28, 0x1112, 0x29]),
   (0x320E, [0x28, 0xAC00, 0x29]), (0x320F, [0x28, 0xB098, 0x29]), (0x3210, [0x28, 0xB2E4, 0x29]),
   (0x3211, [0x28, 0xB77C, 0x29]), (0x3212, [0x28, 0xB9C8, 0x29]), (0x3213, [0x28, 0xBC14, 0x29]),
   (0x3214, [0x28, 0xC0AC, 0x29]), (0x3215, [0x28, 0xC544, 0x29]), (0x3216, [0x28, 0xC790, 0x29]),
   (0x3217, [0x28, 0xCC28, 0x29]), (0x3218, [0x28, 0xCE74, 0x29]), (0x3219, [0x28, 0xD0C0, 0x29]),
   (0x321A, [0x28, 0xD30C, 0x29]), (0x321B, [0x28, 0xD558, 0x29]), (0x321C, [0x28, 0xC8FC, 0x29]),
   (0x321D, [0x28, 0xC624, 0xC804, 0x29]), (0x321E, [0x28, 0xC624, 0xD6C4, 0x29]),
   (0x3220, [0x28, 0x4E00, 0x29]), (0x3221, [0x28, 0x4E8C, 0x29]), (0x3222, [0x28, 0x4E09, 0x29]),
   (0x3223, [0x28, 0x56DB, 0x29]), (0x3224, [0x28, 0x4E94, 0x29]), (0x3225, [0x28, 0x516D, 0x29]),
   (0x3226, [0x28, 0x4E03, 0x29]), (0x3227, [0x28, 0x516B, 0x29]), (0x3228, [0x28, 0x4E5D, 0x29]),
   (0x3229, [0x28, 0x5341, 0x29]), (0x322A, [0x28, 0x6708, 0x29]), (0x322B, [0x28, 0x706B, 0x29]),
   (0x322C, [0x28, 0x6C34, 0x29]), (0x322D, [0x28, 0x6728, 0x29]), (0x322E, [0x28, 0x91D1, 0x29]),
   (0x322F, [0x28, 0x571F, 0x29]), (0x3230, [0x28, 0x65E5, 0x29]), (0x3231, [0x28, 0x682A, 0x29]),
   (0x3232, [0x28, 0x6709, 0x29]), (0x3233, [0x28, 0x793E, 0x29]), (0x3234, [0x28, 0x540D, 0x29]),
   (0x3235, [0x28, 0x7279, 0x29]), (0x3236, [0x28, 0x8CA1, 0x29]), (0x3237, [0x28, 0x795D, 0x29]),
   (0x3238, [0x28, 0x52B4, 0x29]), (0x3239, [0x28, 0x4EE3, 0x29]), (0x323A, [0x28, 0x547C, 0x29]),
   (0x323B, [0x28, 0x5B66, 0x29]), (0x323C, [0x28, 0x76E3, 0x29]), (0x323D, [0x28, 0x4F01, 0x29]),
   (0x323E, [0x28, 0x8CC7, 0x29]), (0x323F, [0x28, 0x5354, 0x29]), (0x3240, [0x28, 0x796D, 0x29]),
   (0x3241, [0x28, 0x4F11, 0x29]), (0x3242, [0x28, 0x81EA, 0x29]), (0x3243, [0x28, 0x81F3, 0x29]),
   (0x3250, [0x70, 0x74, 0x65]), (0x3251, [0x32, 0x31]), (0x3252, [0x32, 0x32]),
   (0x3253, [0x32, 0x33]), (0x3254, [0x32, 0x34]), (0x3255, [0x32, 0x35]), (0x3256, [0x32, 0x36]),
   (0x3257, [0x32, 0x37]), (0x3258, [0x32, 0x38]), (0x3259, [0x32, 0x39]), (0x325A, [0x33, 0x30]),
   (0x325B, [0x33, 0x31]), (0x325C, [0x33, 0x32]), (0x325D, [0x33, 0x33]), (0x325E, [0x33, 0x34]),
   (0x325F, [0x33, 0x35]), (0x327C, [0xCC38, 0xACE0]), (0x327D, [0xC8FC, 0xC758]),
   (0x32B1, [0x33, 0x36]), (0x32B2, [0x33, 0x37]), (0x32B3, [0x33, 0x38]), (0x32B4, [0x33, 0x39]),
   (0x32B5, [0x34, 0x30]), (0x32B6, [0x34, 0x31]), (0x32B7, [0x34, 0x32]), (0x32B8, [0x34, 0x33]),
   (0x32B9, [0x34, 0x34]), (0x32BA, [0x34, 0x35]), (0x32BB, [0x34, 0x36]), (0x32BC, [0x34, 0x37]),
   (0x32BD, [0x34, 0x38]), (0x32BE, [0x34, 0x39]), (0x32BF, [0x35, 0x30]),
   (0x32C0, [0x31, 0x6708]), (0x32C1, [0x32, 0x6708]), (0x32C2, [0x33, 0x6708]),
   (0x32C3, [0x34, 0x6708]), (0x32C4, [0x35, 0x6708]), (0x32C5, [0x36, 0x6708]),
   (0x32C6, [0x37, 0x6708]), (0x32C7, [0x38, 0x6708]), (0x32C8, [0x39, 0x6708]),
   (0x32C9, [0x31, 0x30, 0x6708]), (0x32CA, [0x31, 0x31, 0x6708]), (0x32CB, [0x31, 0x32, 0x6708]),
   (0x32CC, [0x68, 0x67]), (0x32CD, [0x65, 0x72, 0x67]), (0x32CE, [0x65, 0x76]),
   (0x32CF, [0x6C, 0x74, 0x64]), (0x32FF, [0x4EE4, 0x548C]),
   (0x3300, [0x30A2, 0x30D1, 0x30FC, 0x30C8]), (0x3301, [0x30A2, 0x30EB, 0x30D5, 0x30A1]),
   (0x3302, [0x30A2, 0x30F3, 0x30DA, 0x30A2]), (0x3303, [0x30A2, 0x30FC, 0x30EB]),
   (0x3304, [0x30A4, 0x30CB, 0x30F3, 0x30B0]), (0x3305, [0x30A4, 0x30F3, 0x30C1]),
   (0x3306, [0x30A6, 0x30A9, 0x30F3]), (0x3307, [0x30A8, 0x30B9, 0x30AF, 0x30FC, 0x30C9]),
   (0x3308, [0x30A8, 0x30FC, 0x30AB, 0x30FC]), (0x3309, [0x30AA, 0x30F3, 0x30B9]),
   (0x330A, [0x30AA, 0x30FC, 0x30E0]), (0x330B, [0x30AB, 0x30A4, 0x30EA]),
   (0x330C, [0x30AB, 0x30E9, 0x30C3, 0x30C8]), (0x330D, [0x30AB, 0x30ED, 0x30EA, 0x30FC]),
   (0x330E, [0x30AC, 0x30ED, 0x30F3]), (0x330F, [0x30AC, 0x30F3, 0x30DE]),
   (0x3310, [0x30AE, 0x30AC]), (0x3311, [0x30AE, 0x30CB, 0x30FC]),
   (0x3312, [0x30AD, 0x30E5, 0x30EA, 0x30FC]), (0x3313, [0x30AE, 0x30EB, 0x30C0, 0x30FC]),
   (0x3314, [0x30AD, 0x30ED]), (0x3315, [0x30AD, 0x30ED, 0x30B0, 0x30E9, 0x30E0]),
   (0x3316, [0x30AD, 0x30ED, 0x30E1, 0x30FC, 0x30C8, 0x30EB]),
   (0x3317, [0x30AD, 0x30ED, 0x30EF, 0x30C3, 0x30C8]), (0x3318, [0x30B0, 0x30E9, 0x30E0]),
   (0x3319, [0x30B0, 0x30E9, 0x30E0, 0x30C8, 0x30F3]),
   (0x331A, [0x30AF, 0x30EB, 0x30BC, 0x30A4, 0x30ED]), (0x331B, [0x30AF, 0x30ED, 0x30FC, 0x30CD]),
   (0x331C, [0x30B1, 0x30FC, 0x30B9]), (0x331D, [0x30B3, 0x30EB, 0x30CA]),
   (0x331E, [0x30B3, 0x30FC, 0x30DD]), (0x331F, [0x30B5, 0x30A4, 0x30AF, 0x30EB]),
   (0x3320, [0x30B5, 0x30F3, 0x30C1, 0x30FC, 0x30E0]), (0x3321, [0x30B7, 0x30EA, 0x30F3, 0x30B0]),
   (0x3322, [0x30BB, 0x30F3, 0x30C1]), (0x3323, [0x30BB, 0x30F3, 0x30C8]),
   (0x3324, [0x30C0, 0x30FC, 0x30B9]), (0x3325, [0x30C7, 0x30B7]), (0x3326, [0x30C9, 0x30EB]),
   (0x3327, [0x30C8, 0x30F3]), (0x3328, [0x30CA, 0x30CE]), (0x3329, [0x30CE, 0x30C3, 0x30C8]),
   (0x332A, [0x30CF, 0x30A4, 0x30C4]), (0x332B, [0x30D1, 0x30FC, 0x30BB, 0x30F3, 0x30C8]),
   (0x332C, [0x30D1, 0x30FC, 0x30C4]), (0x332D, [0x30D0, 0x30FC, 0x30EC, 0x30EB]),
   (0x332E, [0x30D4, 0x30A2, 0x30B9, 0x30C8, 0x30EB]), (0x332F, [0x30D4, 0x30AF, 0x30EB]),
   (0x3330, [0x30D4, 0x30B3]), (0x3331, [0x30D3, 0x30EB]),
   (0x3332, [0x30D5, 0x30A1, 0x30E9, 0x30C3, 0x30C9]), (0x3333, [0x30D5, 0x30A3, 0x30FC, 0x30C8]),
   (0x3334, [0x30D6, 0x30C3, 0x30B7, 0x30A7, 0x30EB]), (0x3335, [0x30D5, 0x30E9, 0x30F3]),
   (0x3336, [0x30D8, 0x30AF, 0x30BF, 0x30FC, 0x30EB]), (0x3337, [0x30DA, 0x30BD]),
   (0x3338, [0x30DA, 0x30CB, 0x30D2]), (0x3339, [0x30D8, 0x30EB, 0x30C4]),
   (0x333A, [0x30DA, 0x30F3, 0x30B9]), (0x333B, [0x30DA, 0x30FC, 0x30B8]),
   (0x333C, [0x30D9, 0x30FC, 0x30BF]), (0x333D, [0x30DD, 0x30A4, 0x30F3, 0x30C8]),
   (0x333E, [0x30DC, 0x30EB, 0x30C8]), (0x333F, [0x30DB, 0x30F3]),
   (0x3340, [0x30DD, 0x30F3, 0x30C9]), (0x3341, [0x30DB, 0x30FC, 0x30EB]),
   (0x3342, [0x30DB, 0x30FC, 0x30F3]), (0x3343, [0x30DE, 0x30A4, 0x30AF, 0x30ED]),
   (0x3344, [0x30DE, 0x30A4, 0x30EB]), (0x3345, [0x30DE, 0x30C3, 0x30CF]),
   (0x3346, [0x30DE, 0x30EB, 0x30AF]), (0x3347, [0x30DE, 0x30F3, 0x30B7, 0x30E7, 0x30F3]),
   (0x3348, [0x30DF, 0x30AF, 0x30ED, 0x30F3]), (0x3349, [0x30DF, 0x30EA]),
   (0x334A, [0x30DF, 0x30EA, 0x30D0, 0x30FC, 0x30EB]), (0x334B, [0x30E1, 0x30AC]),
   (0x334C, [0x30E1, 0x30AC, 0x30C8, 0x30F3]), (0x334D, [0x30E1, 0x30FC, 0x30C8, 0x30EB]),
   (0x334E, [0x30E4, 0x30FC, 0x30C9]), (0x334F, [0x30E4, 0x30FC, 0x30EB]),
   (0x3350, [0x30E6, 0x30A2, 0x30F3]), (0x3351, [0x30EA, 0x30C3, 0x30C8, 0x30EB]),
   (0x3352, [0x30EA, 0x30E9]), (0x3353, [0x30EB, 0x30D4, 0x30FC]),
   (0x3354, [0x30EB, 0x30FC, 0x30D6, 0x30EB]), (0x3355, [0x30EC, 0x30E0]),
   (0x3356, [0x30EC, 0x30F3, 0x30C8, 0x30B2, 0x30F3]), (0x3357, [0x30EF, 0x30C3, 0x30C8]),
   (0x3358, [0x30, 0x70B9]), (0x3359, [0x31, 0x70B9]), (0x335A, [0x32, 0x70B9]),
   (0x335B, [0x33, 0x70B9]), (0x335C, [0x34, 0x70B9]), (0x335D, [0x35, 0x70B9]),
   (0x335E, [0x36, 0x70B9]), (0x335F, [0x37, 0x70B9]), (0x3360, [0x38, 0x70B9]),
   (0x3361, [0x39, 0x70B9]), (0x3362, [0x31, 0x30, 0x70B9]), (0x3363, [0x31, 0x31, 0x70B9]),
   (0x3364, [0x31, 0x32, 0x70B9]), (0x3365, [0x31, 0x33, 0x70B9]), (0x3366, [0x31, 0x34, 0x70B9]),
   (0x3367, [0x31, 0x35, 0x70B9]), (0x3368, [0x31, 0x36, 0x70B9]), (0x3369, [0x31, 0x37, 0x70B9]),
   (0x336A, [0x31, 0x38, 0x70B9]), (0x336B, [0x31, 0x39, 0x70B9]), (0x336C, [0x32, 0x30, 0x70B9]),
   (0x336D, [0x32, 0x31, 0x70B9]), (0x336E, [0x32, 0x32, 0x70B9]), (0x336F, [0x32, 0x33, 0x70B9]),
   (0x3370, [0x32, 0x34, 0x70B9]), (0x3371, [0x68, 0x70, 0x61]), (0x3372, [0x64, 0x61]),
   (0x3373, [0x61, 0x75]), (0x3374, [0x62, 0x61, 0x72]), (0x3375, [0x6F, 0x76]),
   (0x3376, [0x70, 0x63]), (0x3377, [0x64, 0x6D]), (0x3378, [0x64, 0x6D, 0x32]),
   (0x3379, [0x64, 0x6D, 0x33]), (0x337A, [0x69, 0x75]), (0x337B, [0x5E73, 0x6210]),
   (0x337C, [0x662D, 0x548C]), (0x337D, [0x5927, 0x6B63]), (0x337E, [0x660E, 0x6CBB]),
   (0x337F, [0x682A, 0x5F0F, 0x4F1A, 0x793E]), (0x3380, [0x70, 0x61]), (0x3381, [0x6E, 0x61]),
   (0x3382, [0x3BC, 0x61]), (0x3383, [0x6D, 0x61]), (0x3384, [0x6B, 0x61]),
   (0x3385, [0x6B, 0x62]), (0x3386, [0x6D, 0x62]), (0x3387, [0x67, 0x62]),
   (0x3388, [0x63, 0x61, 0x6C]), (0x3389, [0x6B, 0x63, 0x61, 0x6C]), (0x338A, [0x70, 0x66]),
   (0x338B, [0x6E, 0x66]), (0x338C, [0x3BC, 0x66]), (0x338D, [0x3BC, 0x67]),
   (0x338E, [0x6D, 0x67]), (0x338F, [0x6B, 0x67]), (0x3390, [0x68, 0x7A]),
   (0x3391, [0x6B, 0x68, 0x7A]), (0x3392, [0x6D, 0x68, 0x7A]), (0x3393, [0x67, 0x68, 0x7A]),
   (0x3394, [0x74, 0x68, 0x7A]), (0x3395, [0x3BC, 0x6C]), (0x3396, [0x6D, 0x6C]),
   (0x3397, [0x64, 0x6C]), (0x3398, [0x6B, 0x6C]), (0x3399, [0x66, 0x6D]), (0x339A, [0x6E, 0x6D]),
   (0x339B, [0x3BC, 0x6D]), (0x339C, [0x6D, 0x6D]), (0x339D, [0x63, 0x6D]),
   (0x339E, [0x6B, 0x6D]), (0x339F, [0x6D, 0x6D, 0x32]), (0x33A0, [0x63, 0x6D, 0x32]),
   (0x33A1, [0x6D, 0x32]), (0x33A2, [0x6B, 0x6D, 0x32]), (0x33A3, [0x6D, 0x6D, 0x33]),
   (0x33A4, [0x63, 0x6D, 0x33]), (0x33A5, [0x6D, 0x33]), (0x33A6, [0x6B, 0x6D, 0x33]),
   (0x33A7, [0x6D, 0x2215, 0x73]), (0x33A8, [0x6D, 0x2215, 0x73, 0x32]), (0x33A9, [0x70, 0x61]),
   (0x33AA, [0x6B, 0x70, 0x61]), (0x33AB, [0x6D, 0x70, 0x61]), (0x33AC, [0x67, 0x70, 0x61]),
   (0x33AD, [0x72, 0x61, 0x64]), (0x33AE, [0x72, 0x61, 0x64, 0x2215, 0x73]),
   (0x33AF, [0x72, 0x61, 0x64, 0x2215, 0x73, 0x32]), (0x33B0, [0x70, 0x73]),
   (0x33B1, [0x6E, 0x73]), (0x33B2, [0x3BC, 0x73]), (0x33B3, [0x6D, 0x73]),
   (0x33B4, [0x70, 0x76]), (0x33B5, [0x6E, 0x76]), (0x33B6, [0x3BC, 0x76]),
   (0x33B7, [0x6D, 0x76]), (0x33B8, [0x6B, 0x76]), (0x33B9, [0x6D, 0x76]), (0x33BA, [0x70, 0x77]),
   (0x33BB, [0x6E, 0x77]), (0x33BC, [0x3BC, 0x77]), (0x33BD, [0x6D, 0x77]),
   (0x33BE, [0x6B, 0x77]), (0x33BF, [0x6D, 0x77]), (0x33C0, [0x6B, 0x3C9]),
   (0x33C1, [0x6D, 0x3C9]), (0x33C3, [0x62, 0x71]), (0x33C4, [0x63, 0x63]),
   (0x33C5, [0x63, 0x64]), (0x33C6, [0x63, 0x2215, 0x6B, 0x67]), (0x33C8, [0x64, 0x62]),
   (0x33C9, [0x67, 0x79]), (0x33CA, [0x68, 0x61]), (0x33CB, [0x68, 0x70]), (0x33CC, [0x69, 0x6E]),
   (0x33CD, [0x6B, 0x6B]), (0x33CE, [0x6B, 0x6D]), (0x33CF, [0x6B, 0x74]), (0x33D0, [0x6C, 0x6D]),
   (0x33D1, [0x6C, 0x6E]), (0x33D2, [0x6C, 0x6F, 0x67]), (0x33D3, [0x6C, 0x78]),
   (0x33D4, [0x6D, 0x62]), (0x33D5, [0x6D, 0x69, 0x6C]), (0x33D6, [0x6D, 0x6F, 0x6C]),
   (0x33D7, [0x70, 0x68]), (0x33D9, [0x70, 0x70, 0x6D]), (0x33DA, [0x70, 0x72]),
   (0x33DB, [0x73, 0x72]), (0x33DC, [0x73, 0x76]), (0x33DD, [0x77, 0x62]),
   (0x33DE, [0x76, 0x2215, 0x6D]), (0x33DF, [0x61, 0x2215, 0x6D]), (0x33E0, [0x31, 0x65E5]),
   (0x33E1, [0x32, 0x65E5]), (0x33E2, [0x33, 0x65E5]), (0x33E3, [0x34, 0x65E5]),
   (0x33E4, [0x35, 0x65E5]), (0x33E5, [0x36, 0x65E5]), (0x33E6, [0x37, 0x65E5]),
   (0x33E7, [0x38, 0x65E5]), (0x33E8, [0x39, 0x65E5]), (0x33E9, [0x31, 0x30, 0x65E5]),
   (0x33EA, [0x31, 0x31, 0x65E5]), (0x33EB, [0x31, 0x32, 0x65E5]), (0x33EC, [0x31, 0x33, 0x65E5]),
   (0x33ED, [0x31, 0x34, 0x65E5]), (0x33EE, [0x31, 0x35, 0x65E5]), (0x33EF, [0x31, 0x36, 0x65E5]),
   (0x33F0, [0x31, 0x37, 0x65E5]), (0x33F1, [0x31, 0x38, 0x65E5]), (0x33F2, [0x31, 0x39, 0x65E5]),
   (0x33F3, [0x32, 0x30, 0x65E5]), (0x33F4, [0x32, 0x31, 0x65E5]), (0x33F5, [0x32, 0x32, 0x65E5]),
   (0x33F6, [0x32, 0x33, 0x65E5]), (0x33F7, [0x32, 0x34, 0x65E5]), (0x33F8, [0x32, 0x35, 0x65E5]),
   (0x33F9, [0x32, 0x36, 0x65E5]), (0x33FA, [0x32, 0x37, 0x65E5]), (0x33FB, [0x32, 0x38, 0x65E5]),
   (0x33FC, [0x32, 0x39, 0x65E5]), (0x33FD, [0x33, 0x30, 0x65E5]), (0x33FE, [0x33, 0x31, 0x65E5]),
   (0x33FF, [0x67, 0x61, 0x6C]), (0xFB00, [0x66, 0x66]), (0xFB01, [0x66, 0x69]),
   (0xFB02, [0x66, 0x6C]), (0xFB03, [0x66, 0x66, 0x69]), (0xFB04, [0x66, 0x66, 0x6C]),
   (0xFB05, [0x73, 0x74]), (0xFB06, [0x73, 0x74]), (0xFB13, [0x574, 0x576]),
   (0xFB14, [0x574, 0x565]), (0xFB15, [0x574, 0x56B]), (0xFB16, [0x57E, 0x576]),
   (0xFB17, [0x574, 0x56D]), (0xFB4F, [0x5D0, 0x5DC]), (0xFBDD, [0x6C7, 0x674]),
   (0xFBEA, [0x626, 0x627]), (0xFBEB, [0x626, 0x627]), (0xFBEC, [0x626, 0x6D5]),
   (0xFBED, [0x626, 0x6D5]), (0xFBEE, [0x626, 0x648]), (0xFBEF, [0x626, 0x648]),
   (0xFBF0, [0x626, 0x6C7]), (0xFBF1, [0x626, 0x6C7]), (0xFBF2, [0x626, 0x6C6]),
   (0xFBF3, [0x626, 0x6C6]), (0xFBF4, [0x626, 0x6C8]), (0xFBF5, [0x626, 0x6C8]),
   (0xFBF6, [0x626, 0x6D0]), (0xFBF7, [0x626, 0x6D0]), (0xFBF8, [0x626, 0x6D0]),
   (0xFBF9, [0x626, 0x649]), (0xFBFA, [0x626, 0x649]), (0xFBFB, [0x626, 0x649]),
   (0xFC00, [0x626, 0x62C]), (0xFC01, [0x626, 0x62D]), (0xFC02, [0x626, 0x645]),
   (0xFC03, [0x626, 0x649]), (0xFC04, [0x626, 0x64A]), (0xFC05, [0x628, 0x62C]),
   (0xFC06, [0x628, 0x62D]), (0xFC07, [0x628, 0x62E]), (0xFC08, [0x628, 0x645]),
   (0xFC09, [0x628, 0x649]), (0xFC0A, [0x628, 0x64A]), (0xFC0B, [0x62A, 0x62C]),
   (0xFC0C, [0x62A, 0x62D]), (0xFC0D, [0x62A, 0x62E]), (0xFC0E, [0x62A, 0x645]),
   (0xFC0F, [0x62A, 0x649]), (0xFC10, [0x62A, 0x64A]), (0xFC11, [0x62B, 0x62C]),
   (0xFC12, [0x62B, 0x645]), (0xFC13, [0x62B, 0x649]), (0xFC14, [0x62B, 0x64A]),
   (0xFC15, [0x62C, 0x62D]), (0xFC16, [0x62C, 0x645]), (0xFC17, [0x62D, 0x62C]),
   (0xFC18, [0x62D, 0x645]), (0xFC19, [0x62E, 0x62C]), (0xFC1A, [0x62E, 0x62D]),
   (0xFC1B, [0x62E, 0x645]), (0xFC1C, [0x633, 0x62C]), (0xFC1D, [0x633, 0x62D]),
   (0xFC1E, [0x633, 0x62E]), (0xFC1F, [0x633, 0x645]), (0xFC20, [0x635, 0x62D]),
   (0xFC21, [0x635, 0x645]), (0xFC22, [0x636, 0x62C]), (0xFC23, [0x636, 0x62D]),
   (0xFC24, [0x636, 0x62E]), (0xFC25, [0x636, 0x645]), (0xFC26, [0x637, 0x62D]),
   (0xFC27, [0x637, 0x645]), (0xFC28, [0x638, 0x645]), (0xFC29, [0x639, 0x62C]),
   (0xFC2A, [0x639, 0x645]), (0xFC2B, [0x63A, 0x62C]), (0xFC2C, [0x63A, 0x645]),
   (0xFC2D, [0x641, 0x62C]), (0xFC2E, [0x641, 0x62D]), (0xFC2F, [0x641, 0x62E]),
   (0xFC30, [0x641, 0x645]), (0xFC31, [0x641, 0x649]), (0xFC32, [0x641, 0x64A]),
   (0xFC33, [0x642, 0x62D]), (0xFC34, [0x642, 0x645]), (0xFC35, [0x642, 0x649]),
   (0xFC36, [0x642, 0x64A]), (0xFC37, [0x643, 0x627]), (0xFC38, [0x643, 0x62C]),
   (0xFC39, [0x643, 0x62D]), (0xFC3A, [0x643, 0x62E]), (0xFC3B, [0x643, 0x644]),
   (0xFC3C, [0x643, 0x645]), (0xFC3D, [0x643, 0x649]), (0xFC3E, [0x643, 0x64A]),
   (0xFC3F, [0x644, 0x62C]), (0xFC40, [0x644, 0x62D]), (0xFC41, [0x644, 0x62E]),
   (0xFC42, [0x644, 0x645]), (0xFC43, [0x644, 0x649]), (0xFC44, [0x644, 0x64A]),
   (0xFC45, [0x645, 0x62C]), (0xFC46, [0x645, 0x62D]), (0xFC47, [0x645, 0x62E]),
   (0xFC48, [0x645, 0x645]), (0xFC49, [0x645, 0x649]), (0xFC4A, [0x645, 0x64A]),
   (0xFC4B, [0x646, 0x62C]), (0xFC4C, [0x646, 0x62D]), (0xFC4D, [0x646, 0x62E]),
   (0xFC4E, [0x646, 0x645]), (0xFC4F, [0x646, 0x649]), (0xFC50, [0x646, 0x64A]),
   (0xFC51, [0x647, 0x62C]), (0xFC52, [0x647, 0x645]), (0xFC53, [0x647, 0x649]),
   (0xFC54, [0x647, 0x64A]), (0xFC55, [0x64A, 0x62C]), (0xFC56, [0x64A, 0x62D]),
   (0xFC57, [0x64A, 0x62E]), (0xFC58, [0x64A, 0x645]), (0xFC59, [0x64A, 0x649]),
   (0xFC5A, [0x64A, 0x64A]), (0xFC5B, [0x630, 0x670]), (0xFC5C, [0x631, 0x670]),
   (0xFC5D, [0x649, 0x670]), (0xFC64, [0x626, 0x631]), (0xFC65, [0x626, 0x632]),
   (0xFC66, [0x626, 0x645]), (0xFC67, [0x626, 0x646]), (0xFC68, [0x626, 0x649]),
   (0xFC69, [0x626, 0x64A]), (0xFC6A, [0x628, 0x631]), (0xFC6B, [0x628, 0x632]),
   (0xFC6C, [0x628, 0x645]), (0xFC6D, [0x628, 0x646]), (0xFC6E, [0x628, 0x649]),
   (0xFC6F, [0x628, 0x64A]), (0xFC70, [0x62A, 0x631]), (0xFC71, [0x62A, 0x632]),
   (0xFC72, [0x62A, 0x645]), (0xFC73, [0x62A, 0x646]), (0xFC74, [0x62A, 0x649]),
   (0xFC75, [0x62A, 0x64A]), (0xFC76, [0x62B, 0x631]), (0xFC77, [0x62B, 0x632]),
   (0xFC78, [0x62B, 0x645]), (0xFC79, [0x62B, 0x646]), (0xFC7A, [0x62B, 0x649]),
   (0xFC7B, [0x62B, 0x64A]), (0xFC7C, [0x641, 0x649]), (0xFC7D, [0x641, 0x64A]),
   (0xFC7E, [0x642, 0x649]), (0xFC7F, [0x642, 0x64A]), (0xFC80, [0x643, 0x627]),
   (0xFC81, [0x643, 0x644]), (0xFC82, [0x643, 0x645]), (0xFC83, [0x643, 0x649]),
   (0xFC84, [0x643, 0x64A]), (0xFC85, [0x644, 0x645]), (0xFC86, [0x644, 0x649]),
   (0xFC87, [0x644, 0x64A]), (0xFC88, [0x645, 0x627]), (0xFC89, [0x645, 0x645]),
   (0xFC8A, [0x646, 0x631]), (0xFC8B, [0x646, 0x632]), (0xFC8C, [0x646, 0x645]),
   (0xFC8D, [0x646, 0x646]), (0xFC8E, [0x646, 0x649]), (0xFC8F, [0x646, 0x64A]),
   (0xFC90, [0x649, 0x670]), (0xFC91, [0x64A, 0x631]), (0xFC92, [0x64A, 0x632]),
   (0xFC93, [0x64A, 0x645]), (0xFC94, [0x64A, 0x646]), (0xFC95, [0x64A, 0x649]),
   (0xFC96, [0x64A, 0x64A]), (0xFC97, [0x626, 0x62C]), (0xFC98, [0x626, 0x62D]),
   (0xFC99, [0x626, 0x62E]), (0xFC9A, [0x626, 0x645]), (0xFC9B, [0x626, 0x647]),
   (0xFC9C, [0x628, 0x62C]), (0xFC9D, [0x628, 0x62D]), (0xFC9E, [0x628, 0x62E]),
   (0xFC9F, [0x628, 0x645]), (0xFCA0, [0x628, 0x647]), (0xFCA1, [0x62A, 0x62C]),
   (0xFCA2, [0x62A, 0x62D]), (0xFCA3, [0x62A, 0x62E]), (0xFCA4, [0x62A, 0x645]),
   (0xFCA5, [0x62A, 0x647]), (0xFCA6, [0x62B, 0x645]), (0xFCA7, [0x62C, 0x62D]),
   (0xFCA8, [0x62C, 0x645]), (0xFCA9, [0x62D, 0x62C]), (0xFCAA, [0x62D, 0x645]),
   (0xFCAB, [0x62E, 0x62C]), (0xFCAC, [0x62E, 0x645]), (0xFCAD, [0x633, 0x62C]),
   (0xFCAE, [0x633, 0x62D]), (0xFCAF, [0x633, 0x62E]), (0xFCB0, [0x633, 0x645]),
   (0xFCB1, [0x635, 0x62D]), (0xFCB2, [0x635, 0x62E]), (0xFCB3, [0x635, 0x645]),
   (0xFCB4, [0x636, 0x62C]), (0xFCB5, [0x636, 0x62D]), (0xFCB6, [0x636, 0x62E]),
   (0xFCB7, [0x636, 0x645]), (0xFCB8, [0x637, 0x62D]), (0xFCB9, [0x638, 0x645]),
   (0xFCBA, [0x639, 0x62C]), (0xFCBB, [0x639, 0x645]), (0xFCBC, [0x63A, 0x62C]),
   (0xFCBD, [0x63A, 0x645]), (0xFCBE, [0x641, 0x62C]), (0xFCBF, [0x641, 0x62D]),
   (0xFCC0, [0x641, 0x62E]), (0xFCC1, [0x641, 0x645]), (0xFCC2, [0x642, 0x62D]),
   (0xFCC3, [0x642, 0x645]), (0xFCC4, [0x643, 0x62C]), (0xFCC5, [0x643, 0x62D]),
   (0xFCC6, [0x643, 0x62E]), (0xFCC7, [0x643, 0x644]), (0xFCC8, [0x643, 0x645]),
   (0xFCC9, [0x644, 0x62C]), (0xFCCA, [0x644, 0x62D]), (0xFCCB, [0x644, 0x62E]),
   (0xFCCC, [0x644, 0x645]), (0xFCCD, [0x644, 0x647]), (0xFCCE, [0x645, 0x62C]),
   (0xFCCF, [0x645, 0x62D]), (0xFCD0, [0x645, 0x62E]), (0xFCD1, [0x645, 0x645]),
   (0xFCD2, [0x646, 0x62C]), (0xFCD3, [0x646, 0x62D]), (0xFCD4, [0x646, 0x62E]),
   (0xFCD5, [0x646, 0x645]), (0xFCD6, [0x646, 0x647]), (0xFCD7, [0x647, 0x62C]),
   (0xFCD8, [0x647, 0x645]), (0xFCD9, [0x647, 0x670]), (0xFCDA, [0x64A, 0x62C]),
   (0xFCDB, [0x64A, 0x62D]), (0xFCDC, [0x64A, 0x62E]), (0xFCDD, [0x64A, 0x645]),
   (0xFCDE, [0x64A, 0x647]), (0xFCDF, [0x626, 0x645]), (0xFCE0, [0x626, 0x647]),
   (0xFCE1, [0x628, 0x645]), (0xFCE2, [0x628, 0x647]), (0xFCE3, [0x62A, 0x645]),
   (0xFCE4, [0x62A, 0x647]), (0xFCE5, [0x62B, 0x645]), (0xFCE6, [0x62B, 0x647]),
   (0xFCE7, [0x633, 0x645]), (0xFCE8, [0x633, 0x647]), (0xFCE9, [0x634, 0x645]),
   (0xFCEA, [0x634, 0x647]), (0xFCEB, [0x643, 0x644]), (0xFCEC, [0x643, 0x645]),
   (0xFCED, [0x644, 0x645]), (0xFCEE, [0x646, 0x645]), (0xFCEF, [0x646, 0x647]),
   (0xFCF0, [0x64A, 0x645]), (0xFCF1, [0x64A, 0x647]), (0xFCF2, [0x640, 0x64E, 0x651]),
   (0xFCF3, [0x640, 0x64F, 0x651]), (0xFCF4, [0x640, 0x650, 0x651]), (0xFCF5, [0x637, 0x649]),
   (0xFCF6, [0x637, 0x64A]), (0xFCF7, [0x639, 0x649]), (0xFCF8, [0x639, 0x64A]),
   (0xFCF9, [0x63A, 0x649]), (0xFCFA, [0x63A, 0x64A]), (0xFCFB, [0x633, 0x649]),
   (0xFCFC, [0x633, 0x64A]), (0xFCFD, [0x634, 0x649]), (0xFCFE, [0x634, 0x64A]),
   (0xFCFF, [0x62D, 0x649]), (0xFD00, [0x62D, 0x64A]), (0xFD01, [0x62C, 0x649]),
   (0xFD02, [0x62C, 0x64A]), (0xFD03, [0x62E, 0x649]), (0xFD04, [0x62E, 0x64A]),
   (0xFD05, [0x635, 0x649]), (0xFD06, [0x635, 0x64A]), (0xFD07, [0x636, 0x649]),
   (0xFD08, [0x636, 0x64A]), (0xFD09, [0x634, 0x62C]), (0xFD0A, [0x634, 0x62D]),
   (0xFD0B, [0x634, 0x62E]), (0xFD0C, [0x634, 0x645]), (0xFD0D, [0x634, 0x631]),
   (0xFD0E, [0x633, 0x631]), (0xFD0F, [0x635, 0x631]), (0xFD10, [0x636, 0x631]),
   (0xFD11, [0x637, 0x649]), (0xFD12, [0x637, 0x64A]), (0xFD13, [0x639, 0x649]),
   (0xFD14, [0x639, 0x64A]), (0xFD15, [0x63A, 0x649]), (0xFD16, [0x63A, 0x64A]),
   (0xFD17, [0x633, 0x649]), (0xFD18, [0x633, 0x64A]), (0xFD19, [0x634, 0x649]),
   (0xFD1A, [0x634, 0x64A]), (0xFD1B, [0x62D, 0x649]), (0xFD1C, [0x62D, 0x64A]),
   (0xFD1D, [0x62C, 0x649]), (0xFD1E, [0x62C, 0x64A]), (0xFD1F, [0x62E, 0x649]),
   (0xFD20, [0x62E, 0x64A]), (0xFD21, [0x635, 0x649]), (0xFD22, [0x635, 0x64A]),
   (0xFD23, [0x636, 0x649]), (0xFD24, [0x636, 0x64A]), (0xFD25, [0x634, 0x62C]),
   (0xFD26, [0x634, 0x62D]), (0xFD27, [0x634, 0x62E]), (0xFD28, [0x634, 0x645]),
   (0xFD29, [0x634, 0x631]), (0xFD2A, [0x633, 0x631]), (0xFD2B, [0x635, 0x631]),
   (0xFD2C, [0x636, 0x631]), (0xFD2D, [0x634, 0x62C]), (0xFD2E, [0x634, 0x62D]),
   (0xFD2F, [0x634, 0x62E]), (0xFD30, [0x634, 0x645]), (0xFD31, [0x633, 0x647]),
   (0xFD32, [0x634, 0x647]), (0xFD33, [0x637, 0x645]), (0xFD34, [0x633, 0x62C]),
   (0xFD35, [0x633, 0x62D]), (0xFD36, [0x633, 0x62E]), (0xFD37, [0x634, 0x62C]),
   (0xFD38, [0x634, 0x62D]), (0xFD39, [0x634, 0x62E]), (0xFD3A, [0x637, 0x645]),
   (0xFD3B, [0x638, 0x645]), (0xFD3C, [0x627, 0x64B]), (0xFD3D, [0x627, 0x64B]),
   (0xFD50, [0x62A, 0x62C, 0x645]), (0xFD51, [0x62A, 0x62D, 0x62C]),
   (0xFD52, [0x62A, 0x62D, 0x62C]), (0xFD53, [0x62A, 0x62D, 0x645]),
   (0xFD54, [0x62A, 0x62E, 0x645]), (0xFD55, [0x62A, 0x645, 0x62C]),
   (0xFD56, [0x62A, 0x645, 0x62D]), (0xFD57, [0x62A, 0x645, 0x62E]),
   (0xFD58, [0x62C, 0x645, 0x62D]), (0xFD59, [0x62C, 0x645, 0x62D]),
   (0xFD5A, [0x62D, 0x645, 0x64A]), (0xFD5B, [0x62D, 0x645, 0x649]),
   (0xFD5C, [0x633, 0x62D, 0x62C]), (0xFD5D, [0x633, 0x62C, 0x62D]),
   (0xFD5E, [0x633, 0x62C, 0x649]), (0xFD5F, [0x633, 0x645, 0x62D]),
   (0xFD60, [0x633, 0x645, 0x62D]), (0xFD61, [0x633, 0x645, 0x62C]),
   (0xFD62, [0x633, 0x645, 0x645]), (0xFD63, [0x633, 0x645, 0x645]),
   (0xFD64, [0x635, 0x62D, 0x62D]), (0xFD65, [0x635, 0x62D, 0x62D]),
   (0xFD66, [0x635, 0x645, 0x645]), (0xFD67, [0x634, 0x62D, 0x645]),
   (0xFD68, [0x634, 0x62D, 0x645]), (0xFD69, [0x634, 0x62C, 0x64A]),
   (0xFD6A, [0x634, 0x645, 0x62E]), (0xFD6B, [0x634, 0x645, 0x62E]),
   (0xFD6C, [0x634, 0x645, 0x645]), (0xFD6D, [0x634, 0x645, 0x645]),
   (0xFD6E, [0x636, 0x62D, 0x649]), (0xFD6F, [0x636, 0x62E, 0x645]),
   (0xFD70, [0x636, 0x62E, 0x645]), (0xFD71, [0x637, 0x645, 0x62D]),
   (0xFD72, [0x637, 0x645, 0x62D]), (0xFD73, [0x637, 0x645, 0x645]),
   (0xFD74, [0x637, 0x645, 0x64A]), (0xFD75, [0x639, 0x62C, 0x645]),
   (0xFD76, [0x639, 0x645, 0x645]), (0xFD77, [0x639, 0x645, 0x645]),
   (0xFD78, [0x639, 0x645, 0x649]), (0xFD79, [0x63A, 0x645, 0x645]),
   (0xFD7A, [0x63A, 0x645, 0x64A]), (0xFD7B, [0x63A, 0x645, 0x649]),
   (0xFD7C, [0x641, 0x62E, 0x645]), (0xFD7D, [0x641, 0x62E, 0x645]),
   (0xFD7E, [0x642, 0x645, 0x62D]), (0xFD7F, [0x642, 0x645, 0x645]),
   (0xFD80, [0x644, 0x62D, 0x645]), (0xFD81, [0x644, 0x62D, 0x64A]),
   (0xFD82, [0x644, 0x62D, 0x649]), (0xFD83, [0x644, 0x62C, 0x62C]),
   (0xFD84, [0x644, 0x62C, 0x62C]), (0xFD85, [0x644, 0x62E, 0x645]),
   (0xFD86, [0x644, 0x62E, 0x645]), (0xFD87, [0x644, 0x645, 0x62D]),
   (0xFD88, [0x644, 0x645, 0x62D]), (0xFD89, [0x645, 0x62D, 0x62C]),
   (0xFD8A, [0x645, 0x62D, 0x645]), (0xFD8B, [0x645, 0x62D, 0x64A]),
   (0xFD8C, [0x645, 0x62C, 0x62D]), (0xFD8D, [0x645, 0x62C, 0x645]),
   (0xFD8E, [0x645, 0x62E, 0x62C]), (0xFD8F, [0x645, 0x62E, 0x645]),
   (0xFD92, [0x645, 0x62C, 0x62E]), (0xFD93, [0x647, 0x645, 0x62C]),
   (0xFD94, [0x647, 0x645, 0x645]), (0xFD95, [0x646, 0x62D, 0x645]),
   (0xFD96, [0x646, 0x62D, 0x649]), (0xFD97, [0x646, 0x62C, 0x645]),
   (0xFD98, [0x646, 0x62C, 0x645]), (0xFD99, [0x646, 0x62C, 0x649]),
   (0xFD9A, [0x646, 0x645, 0x64A]), (0xFD9B, [0x646, 0x645, 0x649]),
   (0xFD9C, [0x64A, 0x645, 0x645]), (0xFD9D, [0x64A, 0x645, 0x645]),
   (0xFD9E, [0x628, 0x62E, 0x64A]), (0xFD9F, [0x62A, 0x62C, 0x64A]),
   (0xFDA0, [0x62A, 0x62C, 0x649]), (0xFDA1, [0x62A, 0x62E, 0x64A]),
   (0xFDA2, [0x62A, 0x62E, 0x649]), (0xFDA3, [0x62A, 0x645, 0x64A]),
   (0xFDA4, [0x62A, 0x645, 0x649]), (0xFDA5, [0x62C, 0x645, 0x64A]),
   (0xFDA6, [0x62C, 0x62D, 0x649]), (0xFDA7, [0x62C, 0x645, 0x649]),
   (0xFDA8, [0x633, 0x62E, 0x649]), (0xFDA9, [0x635, 0x62D, 0x64A]),
   (0xFDAA, [0x634, 0x62D, 0x64A]), (0xFDAB, [0x636, 0x62D, 0x64A]),
   (0xFDAC, [0x644, 0x62C, 0x64A]), (0xFDAD, [0x644, 0x645, 0x64A]),
   (0xFDAE, [0x64A, 0x62D, 0x64A]), (0xFDAF, [0x64A, 0x62C, 0x64A]),
   (0xFDB0, [0x64A, 0x645, 0x64A]), (0xFDB1, [0x645, 0x645, 0x64A]),
   (0xFDB2, [0x642, 0x645, 0x64A]), (0xFDB3, [0x646, 0x62D, 0x64A]),
   (0xFDB4, [0x642, 0x645, 0x62D]), (0xFDB5, [0x644, 0x62D, 0x645]),
   (0xFDB6, [0x639, 0x645, 0x64A]), (0xFDB7, [0x643, 0x645, 0x64A]),
   (0xFDB8, [0x646, 0x62C, 0x62D]), (0xFDB9, [0x645, 0x62E, 0x64A]),
   (0xFDBA, [0x644, 0x62C, 0x645]), (0xFDBB, [0x643, 0x645, 0x645]),
   (0xFDBC, [0x644, 0x62C, 0x645]), (0xFDBD, [0x646, 0x62C, 0x62D]),
   (0xFDBE, [0x62C, 0x62D, 0x64A]), (0xFDBF, [0x62D, 0x62C, 0x64A]),
   (0xFDC0, [0x645, 0x62C, 0x64A]), (0xFDC1, [0x641, 0x645, 0x64A]),
   (0xFDC2, [0x628, 0x62D, 0x64A]), (0xFDC3, [0x643, 0x645, 0x645]),
   (0xFDC4, [0x639, 0x62C, 0x645]), (0xFDC5, [0x635, 0x645, 0x645]),
   (0xFDC6, [0x633, 0x62E, 0x64A]), (0xFDC7, [0x646, 0x62C, 0x64A]),
   (0xFDF0, [0x635, 0x644, 0x6D2]), (0xFDF1, [0x642, 0x644, 0x6D2]),
   (0xFDF2, [0x627, 0x644, 0x644, 0x647]), (0xFDF3, [0x627, 0x643, 0x628, 0x631]),
   (0xFDF4, [0x645, 0x62D, 0x645, 0x62F]), (0xFDF5, [0x635, 0x644, 0x639, 0x645]),
   (0xFDF6, [0x631, 0x633, 0x648, 0x644]), (0xFDF7, [0x639, 0x644, 0x64A, 0x647]),
   (0xFDF8, [0x648, 0x633, 0x644, 0x645]), (0xFDF9, [0x635, 0x644, 0x649]),
   (0xFDFC, [0x631, 0x6CC, 0x627, 0x644]), (0xFE71, [0x640, 0x64B]), (0xFE77, [0x640, 0x64E]),
   (0xFE79, [0x640, 0x64F]), (0xFE7B, [0x640, 0x650]), (0xFE7D, [0x640, 0x651]),
   (0xFE7F, [0x640, 0x652]), (0xFEF5, [0x644, 0x622]), (0xFEF6, [0x644, 0x622]),
   (0xFEF7, [0x644, 0x623]), (0xFEF8, [0x644, 0x623]), (0xFEF9, [0x644, 0x625]),
   (0xFEFA, [0x644, 0x625]), (0xFEFB, [0x644, 0x627]), (0xFEFC, [0x644, 0x627]),
   (0x1F101, [0x30, 0x2C]), (0x1F102, [0x31, 0x2C]), (0x1F103, [0x32, 0x2C]),
   (0x1F104, [0x33, 0x2C]), (0x1F105, [0x34, 0x2C]), (0x1F106, [0x35, 0x2C]),
   (0x1F107, [0x36, 0x2C]), (0x1F108, [0x37, 0x2C]), (0x1F109, [0x38, 0x2C]),
   (0x1F10A, [0x39, 0x2C]), (0x1F110, [0x28, 0x61, 0x29]), (0x1F111, [0x28, 0x62, 0x29]),
   (0x1F112, [0x28, 0x63, 0x29]), (0x1F113, [0x28, 0x64, 0x29]), (0x1F114, [0x28, 0x65, 0x29]),
   (0x1F115, [0x28, 0x66, 0x29]), (0x1F116, [0x28, 0x67, 0x29]), (0x1F117, [0x28, 0x68, 0x29]),
   (0x1F118, [0x28, 0x69, 0x29]), (0x1F119, [0x28, 0x6A, 0x29]), (0x1F11A, [0x28, 0x6B, 0x29]),
   (0x1F11B, [0x28, 0x6C, 0x29]), (0x1F11C, [0x28, 0x6D, 0x29]), (0x1F11D, [0x28, 0x6E, 0x29]),
   (0x1F11E, [0x28, 0x6F, 0x29]), (0x1F11F, [0x28, 0x70, 0x29]), (0x1F120, [0x28, 0x71, 0x29]),
   (0x1F121, [0x28, 0x72, 0x29]), (0x1F122, [0x28, 0x73, 0x29]), (0x1F123, [0x28, 0x74, 0x29]),
   (0x1F124, [0x28, 0x75, 0x29]), (0x1F125, [0x28, 0x76, 0x29]), (0x1F126, [0x28, 0x77, 0x29]),
   (0x1F127, [0x28, 0x78, 0x29]), (0x1F128, [0x28, 0x79, 0x29]), (0x1F129, [0x28, 0x7A, 0x29]),
   (0x1F12A, [0x3014, 0x73, 0x3015]), (0x1F12D, [0x63, 0x64]), (0x1F12E, [0x77, 0x7A]),
   (0x1F14A, [0x68, 0x76]), (0x1F14B, [0x6D, 0x76]), (0x1F14C, [0x73, 0x64]),
   (0x1F14D, [0x73, 0x73]), (0x1F14E, [0x70, 0x70, 0x76]), (0x1F14F, [0x77, 0x63]),
   (0x1F16A, [0x6D, 0x63]), (0x1F16B, [0x6D, 0x64]), (0x1F16C, [0x6D, 0x72]),
   (0x1F190, [0x64, 0x6A]), (0x1F200, [0x307B, 0x304B]), (0x1F201, [0x30B3, 0x30B3]),
   (0x1F240, [0x3014, 0x672C, 0x3015]), (0x1F241, [0x3014, 0x4E09, 0x3015]),
   (0x1F242, [0x3014, 0x4E8C, 0x3015]), (0x1F243, [0x3014, 0x5B89, 0x3015]),
   (0x1F244, [0x3014, 0x70B9, 0x3015]), (0x1F245, [0x3014, 0x6253, 0x3015]),
   (0x1F246, [0x3014, 0x76D7, 0x3015]), (0x1F247, [0x3014, 0x52DD, 0x3015]),
   (0x1F248, [0x3014, 0x6557, 0x3015])]

/-- What a character counts as, if it can be in a name. -/
def fold? (c : Char) : Option (List Char) :=
  if inRanges refusedRanges c.toNat then none
  else if inRanges ignoredRanges c.toNat then some []
  else if inRanges keptRanges c.toNat then some [c]
  else
    match foldSpecial.lookup c.toNat, foldRuns.lookup? c with
    | some form, _ => some (form.map Char.ofNat)
    | none, some form => some [form]
    | none, none => some (lowerChar c)

example : fold? 'A' = some ['a'] := by decide +kernel
example : fold? 'ß' = some ['ß'] := by decide +kernel
example : fold? '㎏' = some ['k', 'g'] := by decide +kernel
example : fold? '\u00ad' = some [] := by decide +kernel
example : fold? '\u2028' = none := by decide +kernel

end RailWatch.Url.Domain
