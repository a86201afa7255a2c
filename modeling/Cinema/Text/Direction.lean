/-!
# Bidirectional classes

The bidirectional class of every assigned code point. Eleven classes are told
apart; the paragraph and segment separators, white space and the explicit embedding, override
and isolate controls are all `other`. `directionRuns` lists the assigned code points as runs
`(first, last, class)`, in order; a code point in no run is unassigned and has no class.
-/

namespace Cinema.Text

inductive Direction where
  /-- Left to right (L). -/
  | leftToRight
  /-- Right to left (R). -/
  | rightToLeft
  /-- Arabic letter (AL). -/
  | arabicLetter
  /-- European number (EN). -/
  | europeanNumber
  /-- European number separator (ES). -/
  | europeanSeparator
  /-- European number terminator (ET). -/
  | europeanTerminator
  /-- Arabic number (AN). -/
  | arabicNumber
  /-- Common number separator (CS). -/
  | commonSeparator
  /-- Nonspacing mark (NSM). -/
  | nonspacingMark
  /-- Boundary neutral (BN). -/
  | boundaryNeutral
  /-- Other neutral (ON). -/
  | otherNeutral
  /-- Any other class. -/
  | other
  deriving DecidableEq, Repr

set_option maxRecDepth 100000 in
open Direction in
def directionRuns : List (Nat × Nat × Direction) := [
  (0x0, 0x8, boundaryNeutral), (0x9, 0xD, other), (0xE, 0x1B, boundaryNeutral), (0x1C, 0x20, other),
  (0x21, 0x22, otherNeutral), (0x23, 0x25, europeanTerminator), (0x26, 0x2A, otherNeutral),
  (0x2B, 0x2B, europeanSeparator), (0x2C, 0x2C, commonSeparator), (0x2D, 0x2D, europeanSeparator),
  (0x2E, 0x2F, commonSeparator), (0x30, 0x39, europeanNumber), (0x3A, 0x3A, commonSeparator),
  (0x3B, 0x40, otherNeutral), (0x41, 0x5A, leftToRight), (0x5B, 0x60, otherNeutral),
  (0x61, 0x7A, leftToRight), (0x7B, 0x7E, otherNeutral), (0x7F, 0x84, boundaryNeutral),
  (0x85, 0x85, other), (0x86, 0x9F, boundaryNeutral), (0xA0, 0xA0, commonSeparator),
  (0xA1, 0xA1, otherNeutral), (0xA2, 0xA5, europeanTerminator), (0xA6, 0xA9, otherNeutral),
  (0xAA, 0xAA, leftToRight), (0xAB, 0xAC, otherNeutral), (0xAD, 0xAD, boundaryNeutral),
  (0xAE, 0xAF, otherNeutral), (0xB0, 0xB1, europeanTerminator), (0xB2, 0xB3, europeanNumber),
  (0xB4, 0xB4, otherNeutral), (0xB5, 0xB5, leftToRight), (0xB6, 0xB8, otherNeutral),
  (0xB9, 0xB9, europeanNumber), (0xBA, 0xBA, leftToRight), (0xBB, 0xBF, otherNeutral),
  (0xC0, 0xD6, leftToRight), (0xD7, 0xD7, otherNeutral), (0xD8, 0xF6, leftToRight),
  (0xF7, 0xF7, otherNeutral), (0xF8, 0x2B8, leftToRight), (0x2B9, 0x2BA, otherNeutral),
  (0x2BB, 0x2C1, leftToRight), (0x2C2, 0x2CF, otherNeutral), (0x2D0, 0x2D1, leftToRight),
  (0x2D2, 0x2DF, otherNeutral), (0x2E0, 0x2E4, leftToRight), (0x2E5, 0x2ED, otherNeutral),
  (0x2EE, 0x2EE, leftToRight), (0x2EF, 0x2FF, otherNeutral), (0x300, 0x36F, nonspacingMark),
  (0x370, 0x373, leftToRight), (0x374, 0x375, otherNeutral), (0x376, 0x377, leftToRight),
  (0x37A, 0x37D, leftToRight), (0x37E, 0x37E, otherNeutral), (0x37F, 0x37F, leftToRight),
  (0x384, 0x385, otherNeutral), (0x386, 0x386, leftToRight), (0x387, 0x387, otherNeutral),
  (0x388, 0x38A, leftToRight), (0x38C, 0x38C, leftToRight), (0x38E, 0x3A1, leftToRight),
  (0x3A3, 0x3F5, leftToRight), (0x3F6, 0x3F6, otherNeutral), (0x3F7, 0x482, leftToRight),
  (0x483, 0x489, nonspacingMark), (0x48A, 0x52F, leftToRight), (0x531, 0x556, leftToRight),
  (0x559, 0x589, leftToRight), (0x58A, 0x58A, otherNeutral), (0x58D, 0x58E, otherNeutral),
  (0x58F, 0x58F, europeanTerminator), (0x591, 0x5BD, nonspacingMark), (0x5BE, 0x5BE, rightToLeft),
  (0x5BF, 0x5BF, nonspacingMark), (0x5C0, 0x5C0, rightToLeft), (0x5C1, 0x5C2, nonspacingMark),
  (0x5C3, 0x5C3, rightToLeft), (0x5C4, 0x5C5, nonspacingMark), (0x5C6, 0x5C6, rightToLeft),
  (0x5C7, 0x5C7, nonspacingMark), (0x5D0, 0x5EA, rightToLeft), (0x5EF, 0x5F4, rightToLeft),
  (0x600, 0x605, arabicNumber), (0x606, 0x607, otherNeutral), (0x608, 0x608, arabicLetter),
  (0x609, 0x60A, europeanTerminator), (0x60B, 0x60B, arabicLetter), (0x60C, 0x60C, commonSeparator),
  (0x60D, 0x60D, arabicLetter), (0x60E, 0x60F, otherNeutral), (0x610, 0x61A, nonspacingMark),
  (0x61B, 0x64A, arabicLetter), (0x64B, 0x65F, nonspacingMark), (0x660, 0x669, arabicNumber),
  (0x66A, 0x66A, europeanTerminator), (0x66B, 0x66C, arabicNumber), (0x66D, 0x66F, arabicLetter),
  (0x670, 0x670, nonspacingMark), (0x671, 0x6D5, arabicLetter), (0x6D6, 0x6DC, nonspacingMark),
  (0x6DD, 0x6DD, arabicNumber), (0x6DE, 0x6DE, otherNeutral), (0x6DF, 0x6E4, nonspacingMark),
  (0x6E5, 0x6E6, arabicLetter), (0x6E7, 0x6E8, nonspacingMark), (0x6E9, 0x6E9, otherNeutral),
  (0x6EA, 0x6ED, nonspacingMark), (0x6EE, 0x6EF, arabicLetter), (0x6F0, 0x6F9, europeanNumber),
  (0x6FA, 0x70D, arabicLetter), (0x70F, 0x710, arabicLetter), (0x711, 0x711, nonspacingMark),
  (0x712, 0x72F, arabicLetter), (0x730, 0x74A, nonspacingMark), (0x74D, 0x7A5, arabicLetter),
  (0x7A6, 0x7B0, nonspacingMark), (0x7B1, 0x7B1, arabicLetter), (0x7C0, 0x7EA, rightToLeft),
  (0x7EB, 0x7F3, nonspacingMark), (0x7F4, 0x7F5, rightToLeft), (0x7F6, 0x7F9, otherNeutral),
  (0x7FA, 0x7FA, rightToLeft), (0x7FD, 0x7FD, nonspacingMark), (0x7FE, 0x815, rightToLeft),
  (0x816, 0x819, nonspacingMark), (0x81A, 0x81A, rightToLeft), (0x81B, 0x823, nonspacingMark),
  (0x824, 0x824, rightToLeft), (0x825, 0x827, nonspacingMark), (0x828, 0x828, rightToLeft),
  (0x829, 0x82D, nonspacingMark), (0x830, 0x83E, rightToLeft), (0x840, 0x858, rightToLeft),
  (0x859, 0x85B, nonspacingMark), (0x85E, 0x85E, rightToLeft), (0x860, 0x86A, arabicLetter),
  (0x870, 0x88E, arabicLetter), (0x890, 0x891, arabicNumber), (0x898, 0x89F, nonspacingMark),
  (0x8A0, 0x8C9, arabicLetter), (0x8CA, 0x8E1, nonspacingMark), (0x8E2, 0x8E2, arabicNumber),
  (0x8E3, 0x902, nonspacingMark), (0x903, 0x939, leftToRight), (0x93A, 0x93A, nonspacingMark),
  (0x93B, 0x93B, leftToRight), (0x93C, 0x93C, nonspacingMark), (0x93D, 0x940, leftToRight),
  (0x941, 0x948, nonspacingMark), (0x949, 0x94C, leftToRight), (0x94D, 0x94D, nonspacingMark),
  (0x94E, 0x950, leftToRight), (0x951, 0x957, nonspacingMark), (0x958, 0x961, leftToRight),
  (0x962, 0x963, nonspacingMark), (0x964, 0x980, leftToRight), (0x981, 0x981, nonspacingMark),
  (0x982, 0x983, leftToRight), (0x985, 0x98C, leftToRight), (0x98F, 0x990, leftToRight),
  (0x993, 0x9A8, leftToRight), (0x9AA, 0x9B0, leftToRight), (0x9B2, 0x9B2, leftToRight),
  (0x9B6, 0x9B9, leftToRight), (0x9BC, 0x9BC, nonspacingMark), (0x9BD, 0x9C0, leftToRight),
  (0x9C1, 0x9C4, nonspacingMark), (0x9C7, 0x9C8, leftToRight), (0x9CB, 0x9CC, leftToRight),
  (0x9CD, 0x9CD, nonspacingMark), (0x9CE, 0x9CE, leftToRight), (0x9D7, 0x9D7, leftToRight),
  (0x9DC, 0x9DD, leftToRight), (0x9DF, 0x9E1, leftToRight), (0x9E2, 0x9E3, nonspacingMark),
  (0x9E6, 0x9F1, leftToRight), (0x9F2, 0x9F3, europeanTerminator), (0x9F4, 0x9FA, leftToRight),
  (0x9FB, 0x9FB, europeanTerminator), (0x9FC, 0x9FD, leftToRight), (0x9FE, 0x9FE, nonspacingMark),
  (0xA01, 0xA02, nonspacingMark), (0xA03, 0xA03, leftToRight), (0xA05, 0xA0A, leftToRight),
  (0xA0F, 0xA10, leftToRight), (0xA13, 0xA28, leftToRight), (0xA2A, 0xA30, leftToRight),
  (0xA32, 0xA33, leftToRight), (0xA35, 0xA36, leftToRight), (0xA38, 0xA39, leftToRight),
  (0xA3C, 0xA3C, nonspacingMark), (0xA3E, 0xA40, leftToRight), (0xA41, 0xA42, nonspacingMark),
  (0xA47, 0xA48, nonspacingMark), (0xA4B, 0xA4D, nonspacingMark), (0xA51, 0xA51, nonspacingMark),
  (0xA59, 0xA5C, leftToRight), (0xA5E, 0xA5E, leftToRight), (0xA66, 0xA6F, leftToRight),
  (0xA70, 0xA71, nonspacingMark), (0xA72, 0xA74, leftToRight), (0xA75, 0xA75, nonspacingMark),
  (0xA76, 0xA76, leftToRight), (0xA81, 0xA82, nonspacingMark), (0xA83, 0xA83, leftToRight),
  (0xA85, 0xA8D, leftToRight), (0xA8F, 0xA91, leftToRight), (0xA93, 0xAA8, leftToRight),
  (0xAAA, 0xAB0, leftToRight), (0xAB2, 0xAB3, leftToRight), (0xAB5, 0xAB9, leftToRight),
  (0xABC, 0xABC, nonspacingMark), (0xABD, 0xAC0, leftToRight), (0xAC1, 0xAC5, nonspacingMark),
  (0xAC7, 0xAC8, nonspacingMark), (0xAC9, 0xAC9, leftToRight), (0xACB, 0xACC, leftToRight),
  (0xACD, 0xACD, nonspacingMark), (0xAD0, 0xAD0, leftToRight), (0xAE0, 0xAE1, leftToRight),
  (0xAE2, 0xAE3, nonspacingMark), (0xAE6, 0xAF0, leftToRight), (0xAF1, 0xAF1, europeanTerminator),
  (0xAF9, 0xAF9, leftToRight), (0xAFA, 0xAFF, nonspacingMark), (0xB01, 0xB01, nonspacingMark),
  (0xB02, 0xB03, leftToRight), (0xB05, 0xB0C, leftToRight), (0xB0F, 0xB10, leftToRight),
  (0xB13, 0xB28, leftToRight), (0xB2A, 0xB30, leftToRight), (0xB32, 0xB33, leftToRight),
  (0xB35, 0xB39, leftToRight), (0xB3C, 0xB3C, nonspacingMark), (0xB3D, 0xB3E, leftToRight),
  (0xB3F, 0xB3F, nonspacingMark), (0xB40, 0xB40, leftToRight), (0xB41, 0xB44, nonspacingMark),
  (0xB47, 0xB48, leftToRight), (0xB4B, 0xB4C, leftToRight), (0xB4D, 0xB4D, nonspacingMark),
  (0xB55, 0xB56, nonspacingMark), (0xB57, 0xB57, leftToRight), (0xB5C, 0xB5D, leftToRight),
  (0xB5F, 0xB61, leftToRight), (0xB62, 0xB63, nonspacingMark), (0xB66, 0xB77, leftToRight),
  (0xB82, 0xB82, nonspacingMark), (0xB83, 0xB83, leftToRight), (0xB85, 0xB8A, leftToRight),
  (0xB8E, 0xB90, leftToRight), (0xB92, 0xB95, leftToRight), (0xB99, 0xB9A, leftToRight),
  (0xB9C, 0xB9C, leftToRight), (0xB9E, 0xB9F, leftToRight), (0xBA3, 0xBA4, leftToRight),
  (0xBA8, 0xBAA, leftToRight), (0xBAE, 0xBB9, leftToRight), (0xBBE, 0xBBF, leftToRight),
  (0xBC0, 0xBC0, nonspacingMark), (0xBC1, 0xBC2, leftToRight), (0xBC6, 0xBC8, leftToRight),
  (0xBCA, 0xBCC, leftToRight), (0xBCD, 0xBCD, nonspacingMark), (0xBD0, 0xBD0, leftToRight),
  (0xBD7, 0xBD7, leftToRight), (0xBE6, 0xBF2, leftToRight), (0xBF3, 0xBF8, otherNeutral),
  (0xBF9, 0xBF9, europeanTerminator), (0xBFA, 0xBFA, otherNeutral), (0xC00, 0xC00, nonspacingMark),
  (0xC01, 0xC03, leftToRight), (0xC04, 0xC04, nonspacingMark), (0xC05, 0xC0C, leftToRight),
  (0xC0E, 0xC10, leftToRight), (0xC12, 0xC28, leftToRight), (0xC2A, 0xC39, leftToRight),
  (0xC3C, 0xC3C, nonspacingMark), (0xC3D, 0xC3D, leftToRight), (0xC3E, 0xC40, nonspacingMark),
  (0xC41, 0xC44, leftToRight), (0xC46, 0xC48, nonspacingMark), (0xC4A, 0xC4D, nonspacingMark),
  (0xC55, 0xC56, nonspacingMark), (0xC58, 0xC5A, leftToRight), (0xC5D, 0xC5D, leftToRight),
  (0xC60, 0xC61, leftToRight), (0xC62, 0xC63, nonspacingMark), (0xC66, 0xC6F, leftToRight),
  (0xC77, 0xC77, leftToRight), (0xC78, 0xC7E, otherNeutral), (0xC7F, 0xC80, leftToRight),
  (0xC81, 0xC81, nonspacingMark), (0xC82, 0xC8C, leftToRight), (0xC8E, 0xC90, leftToRight),
  (0xC92, 0xCA8, leftToRight), (0xCAA, 0xCB3, leftToRight), (0xCB5, 0xCB9, leftToRight),
  (0xCBC, 0xCBC, nonspacingMark), (0xCBD, 0xCC4, leftToRight), (0xCC6, 0xCC8, leftToRight),
  (0xCCA, 0xCCB, leftToRight), (0xCCC, 0xCCD, nonspacingMark), (0xCD5, 0xCD6, leftToRight),
  (0xCDD, 0xCDE, leftToRight), (0xCE0, 0xCE1, leftToRight), (0xCE2, 0xCE3, nonspacingMark),
  (0xCE6, 0xCEF, leftToRight), (0xCF1, 0xCF2, leftToRight), (0xD00, 0xD01, nonspacingMark),
  (0xD02, 0xD0C, leftToRight), (0xD0E, 0xD10, leftToRight), (0xD12, 0xD3A, leftToRight),
  (0xD3B, 0xD3C, nonspacingMark), (0xD3D, 0xD40, leftToRight), (0xD41, 0xD44, nonspacingMark),
  (0xD46, 0xD48, leftToRight), (0xD4A, 0xD4C, leftToRight), (0xD4D, 0xD4D, nonspacingMark),
  (0xD4E, 0xD4F, leftToRight), (0xD54, 0xD61, leftToRight), (0xD62, 0xD63, nonspacingMark),
  (0xD66, 0xD7F, leftToRight), (0xD81, 0xD81, nonspacingMark), (0xD82, 0xD83, leftToRight),
  (0xD85, 0xD96, leftToRight), (0xD9A, 0xDB1, leftToRight), (0xDB3, 0xDBB, leftToRight),
  (0xDBD, 0xDBD, leftToRight), (0xDC0, 0xDC6, leftToRight), (0xDCA, 0xDCA, nonspacingMark),
  (0xDCF, 0xDD1, leftToRight), (0xDD2, 0xDD4, nonspacingMark), (0xDD6, 0xDD6, nonspacingMark),
  (0xDD8, 0xDDF, leftToRight), (0xDE6, 0xDEF, leftToRight), (0xDF2, 0xDF4, leftToRight),
  (0xE01, 0xE30, leftToRight), (0xE31, 0xE31, nonspacingMark), (0xE32, 0xE33, leftToRight),
  (0xE34, 0xE3A, nonspacingMark), (0xE3F, 0xE3F, europeanTerminator), (0xE40, 0xE46, leftToRight),
  (0xE47, 0xE4E, nonspacingMark), (0xE4F, 0xE5B, leftToRight), (0xE81, 0xE82, leftToRight),
  (0xE84, 0xE84, leftToRight), (0xE86, 0xE8A, leftToRight), (0xE8C, 0xEA3, leftToRight),
  (0xEA5, 0xEA5, leftToRight), (0xEA7, 0xEB0, leftToRight), (0xEB1, 0xEB1, nonspacingMark),
  (0xEB2, 0xEB3, leftToRight), (0xEB4, 0xEBC, nonspacingMark), (0xEBD, 0xEBD, leftToRight),
  (0xEC0, 0xEC4, leftToRight), (0xEC6, 0xEC6, leftToRight), (0xEC8, 0xECD, nonspacingMark),
  (0xED0, 0xED9, leftToRight), (0xEDC, 0xEDF, leftToRight), (0xF00, 0xF17, leftToRight),
  (0xF18, 0xF19, nonspacingMark), (0xF1A, 0xF34, leftToRight), (0xF35, 0xF35, nonspacingMark),
  (0xF36, 0xF36, leftToRight), (0xF37, 0xF37, nonspacingMark), (0xF38, 0xF38, leftToRight),
  (0xF39, 0xF39, nonspacingMark), (0xF3A, 0xF3D, otherNeutral), (0xF3E, 0xF47, leftToRight),
  (0xF49, 0xF6C, leftToRight), (0xF71, 0xF7E, nonspacingMark), (0xF7F, 0xF7F, leftToRight),
  (0xF80, 0xF84, nonspacingMark), (0xF85, 0xF85, leftToRight), (0xF86, 0xF87, nonspacingMark),
  (0xF88, 0xF8C, leftToRight), (0xF8D, 0xF97, nonspacingMark), (0xF99, 0xFBC, nonspacingMark),
  (0xFBE, 0xFC5, leftToRight), (0xFC6, 0xFC6, nonspacingMark), (0xFC7, 0xFCC, leftToRight),
  (0xFCE, 0xFDA, leftToRight), (0x1000, 0x102C, leftToRight), (0x102D, 0x1030, nonspacingMark),
  (0x1031, 0x1031, leftToRight), (0x1032, 0x1037, nonspacingMark), (0x1038, 0x1038, leftToRight),
  (0x1039, 0x103A, nonspacingMark), (0x103B, 0x103C, leftToRight), (0x103D, 0x103E, nonspacingMark),
  (0x103F, 0x1057, leftToRight), (0x1058, 0x1059, nonspacingMark), (0x105A, 0x105D, leftToRight),
  (0x105E, 0x1060, nonspacingMark), (0x1061, 0x1070, leftToRight), (0x1071, 0x1074, nonspacingMark),
  (0x1075, 0x1081, leftToRight), (0x1082, 0x1082, nonspacingMark), (0x1083, 0x1084, leftToRight),
  (0x1085, 0x1086, nonspacingMark), (0x1087, 0x108C, leftToRight), (0x108D, 0x108D, nonspacingMark),
  (0x108E, 0x109C, leftToRight), (0x109D, 0x109D, nonspacingMark), (0x109E, 0x10C5, leftToRight),
  (0x10C7, 0x10C7, leftToRight), (0x10CD, 0x10CD, leftToRight), (0x10D0, 0x1248, leftToRight),
  (0x124A, 0x124D, leftToRight), (0x1250, 0x1256, leftToRight), (0x1258, 0x1258, leftToRight),
  (0x125A, 0x125D, leftToRight), (0x1260, 0x1288, leftToRight), (0x128A, 0x128D, leftToRight),
  (0x1290, 0x12B0, leftToRight), (0x12B2, 0x12B5, leftToRight), (0x12B8, 0x12BE, leftToRight),
  (0x12C0, 0x12C0, leftToRight), (0x12C2, 0x12C5, leftToRight), (0x12C8, 0x12D6, leftToRight),
  (0x12D8, 0x1310, leftToRight), (0x1312, 0x1315, leftToRight), (0x1318, 0x135A, leftToRight),
  (0x135D, 0x135F, nonspacingMark), (0x1360, 0x137C, leftToRight), (0x1380, 0x138F, leftToRight),
  (0x1390, 0x1399, otherNeutral), (0x13A0, 0x13F5, leftToRight), (0x13F8, 0x13FD, leftToRight),
  (0x1400, 0x1400, otherNeutral), (0x1401, 0x167F, leftToRight), (0x1680, 0x1680, other),
  (0x1681, 0x169A, leftToRight), (0x169B, 0x169C, otherNeutral), (0x16A0, 0x16F8, leftToRight),
  (0x1700, 0x1711, leftToRight), (0x1712, 0x1714, nonspacingMark), (0x1715, 0x1715, leftToRight),
  (0x171F, 0x1731, leftToRight), (0x1732, 0x1733, nonspacingMark), (0x1734, 0x1736, leftToRight),
  (0x1740, 0x1751, leftToRight), (0x1752, 0x1753, nonspacingMark), (0x1760, 0x176C, leftToRight),
  (0x176E, 0x1770, leftToRight), (0x1772, 0x1773, nonspacingMark), (0x1780, 0x17B3, leftToRight),
  (0x17B4, 0x17B5, nonspacingMark), (0x17B6, 0x17B6, leftToRight), (0x17B7, 0x17BD, nonspacingMark),
  (0x17BE, 0x17C5, leftToRight), (0x17C6, 0x17C6, nonspacingMark), (0x17C7, 0x17C8, leftToRight),
  (0x17C9, 0x17D3, nonspacingMark), (0x17D4, 0x17DA, leftToRight),
  (0x17DB, 0x17DB, europeanTerminator), (0x17DC, 0x17DC, leftToRight),
  (0x17DD, 0x17DD, nonspacingMark), (0x17E0, 0x17E9, leftToRight), (0x17F0, 0x17F9, otherNeutral),
  (0x1800, 0x180A, otherNeutral), (0x180B, 0x180D, nonspacingMark),
  (0x180E, 0x180E, boundaryNeutral), (0x180F, 0x180F, nonspacingMark),
  (0x1810, 0x1819, leftToRight), (0x1820, 0x1878, leftToRight), (0x1880, 0x1884, leftToRight),
  (0x1885, 0x1886, nonspacingMark), (0x1887, 0x18A8, leftToRight), (0x18A9, 0x18A9, nonspacingMark),
  (0x18AA, 0x18AA, leftToRight), (0x18B0, 0x18F5, leftToRight), (0x1900, 0x191E, leftToRight),
  (0x1920, 0x1922, nonspacingMark), (0x1923, 0x1926, leftToRight), (0x1927, 0x1928, nonspacingMark),
  (0x1929, 0x192B, leftToRight), (0x1930, 0x1931, leftToRight), (0x1932, 0x1932, nonspacingMark),
  (0x1933, 0x1938, leftToRight), (0x1939, 0x193B, nonspacingMark), (0x1940, 0x1940, otherNeutral),
  (0x1944, 0x1945, otherNeutral), (0x1946, 0x196D, leftToRight), (0x1970, 0x1974, leftToRight),
  (0x1980, 0x19AB, leftToRight), (0x19B0, 0x19C9, leftToRight), (0x19D0, 0x19DA, leftToRight),
  (0x19DE, 0x19FF, otherNeutral), (0x1A00, 0x1A16, leftToRight), (0x1A17, 0x1A18, nonspacingMark),
  (0x1A19, 0x1A1A, leftToRight), (0x1A1B, 0x1A1B, nonspacingMark), (0x1A1E, 0x1A55, leftToRight),
  (0x1A56, 0x1A56, nonspacingMark), (0x1A57, 0x1A57, leftToRight), (0x1A58, 0x1A5E, nonspacingMark),
  (0x1A60, 0x1A60, nonspacingMark), (0x1A61, 0x1A61, leftToRight), (0x1A62, 0x1A62, nonspacingMark),
  (0x1A63, 0x1A64, leftToRight), (0x1A65, 0x1A6C, nonspacingMark), (0x1A6D, 0x1A72, leftToRight),
  (0x1A73, 0x1A7C, nonspacingMark), (0x1A7F, 0x1A7F, nonspacingMark), (0x1A80, 0x1A89, leftToRight),
  (0x1A90, 0x1A99, leftToRight), (0x1AA0, 0x1AAD, leftToRight), (0x1AB0, 0x1ACE, nonspacingMark),
  (0x1B00, 0x1B03, nonspacingMark), (0x1B04, 0x1B33, leftToRight), (0x1B34, 0x1B34, nonspacingMark),
  (0x1B35, 0x1B35, leftToRight), (0x1B36, 0x1B3A, nonspacingMark), (0x1B3B, 0x1B3B, leftToRight),
  (0x1B3C, 0x1B3C, nonspacingMark), (0x1B3D, 0x1B41, leftToRight), (0x1B42, 0x1B42, nonspacingMark),
  (0x1B43, 0x1B4C, leftToRight), (0x1B50, 0x1B6A, leftToRight), (0x1B6B, 0x1B73, nonspacingMark),
  (0x1B74, 0x1B7E, leftToRight), (0x1B80, 0x1B81, nonspacingMark), (0x1B82, 0x1BA1, leftToRight),
  (0x1BA2, 0x1BA5, nonspacingMark), (0x1BA6, 0x1BA7, leftToRight), (0x1BA8, 0x1BA9, nonspacingMark),
  (0x1BAA, 0x1BAA, leftToRight), (0x1BAB, 0x1BAD, nonspacingMark), (0x1BAE, 0x1BE5, leftToRight),
  (0x1BE6, 0x1BE6, nonspacingMark), (0x1BE7, 0x1BE7, leftToRight), (0x1BE8, 0x1BE9, nonspacingMark),
  (0x1BEA, 0x1BEC, leftToRight), (0x1BED, 0x1BED, nonspacingMark), (0x1BEE, 0x1BEE, leftToRight),
  (0x1BEF, 0x1BF1, nonspacingMark), (0x1BF2, 0x1BF3, leftToRight), (0x1BFC, 0x1C2B, leftToRight),
  (0x1C2C, 0x1C33, nonspacingMark), (0x1C34, 0x1C35, leftToRight), (0x1C36, 0x1C37, nonspacingMark),
  (0x1C3B, 0x1C49, leftToRight), (0x1C4D, 0x1C88, leftToRight), (0x1C90, 0x1CBA, leftToRight),
  (0x1CBD, 0x1CC7, leftToRight), (0x1CD0, 0x1CD2, nonspacingMark), (0x1CD3, 0x1CD3, leftToRight),
  (0x1CD4, 0x1CE0, nonspacingMark), (0x1CE1, 0x1CE1, leftToRight), (0x1CE2, 0x1CE8, nonspacingMark),
  (0x1CE9, 0x1CEC, leftToRight), (0x1CED, 0x1CED, nonspacingMark), (0x1CEE, 0x1CF3, leftToRight),
  (0x1CF4, 0x1CF4, nonspacingMark), (0x1CF5, 0x1CF7, leftToRight), (0x1CF8, 0x1CF9, nonspacingMark),
  (0x1CFA, 0x1CFA, leftToRight), (0x1D00, 0x1DBF, leftToRight), (0x1DC0, 0x1DFF, nonspacingMark),
  (0x1E00, 0x1F15, leftToRight), (0x1F18, 0x1F1D, leftToRight), (0x1F20, 0x1F45, leftToRight),
  (0x1F48, 0x1F4D, leftToRight), (0x1F50, 0x1F57, leftToRight), (0x1F59, 0x1F59, leftToRight),
  (0x1F5B, 0x1F5B, leftToRight), (0x1F5D, 0x1F5D, leftToRight), (0x1F5F, 0x1F7D, leftToRight),
  (0x1F80, 0x1FB4, leftToRight), (0x1FB6, 0x1FBC, leftToRight), (0x1FBD, 0x1FBD, otherNeutral),
  (0x1FBE, 0x1FBE, leftToRight), (0x1FBF, 0x1FC1, otherNeutral), (0x1FC2, 0x1FC4, leftToRight),
  (0x1FC6, 0x1FCC, leftToRight), (0x1FCD, 0x1FCF, otherNeutral), (0x1FD0, 0x1FD3, leftToRight),
  (0x1FD6, 0x1FDB, leftToRight), (0x1FDD, 0x1FDF, otherNeutral), (0x1FE0, 0x1FEC, leftToRight),
  (0x1FED, 0x1FEF, otherNeutral), (0x1FF2, 0x1FF4, leftToRight), (0x1FF6, 0x1FFC, leftToRight),
  (0x1FFD, 0x1FFE, otherNeutral), (0x2000, 0x200A, other), (0x200B, 0x200D, boundaryNeutral),
  (0x200E, 0x200E, leftToRight), (0x200F, 0x200F, rightToLeft), (0x2010, 0x2027, otherNeutral),
  (0x2028, 0x202E, other), (0x202F, 0x202F, commonSeparator), (0x2030, 0x2034, europeanTerminator),
  (0x2035, 0x2043, otherNeutral), (0x2044, 0x2044, commonSeparator), (0x2045, 0x205E, otherNeutral),
  (0x205F, 0x205F, other), (0x2060, 0x2064, boundaryNeutral), (0x2066, 0x2069, other),
  (0x206A, 0x206F, boundaryNeutral), (0x2070, 0x2070, europeanNumber),
  (0x2071, 0x2071, leftToRight), (0x2074, 0x2079, europeanNumber),
  (0x207A, 0x207B, europeanSeparator), (0x207C, 0x207E, otherNeutral),
  (0x207F, 0x207F, leftToRight), (0x2080, 0x2089, europeanNumber),
  (0x208A, 0x208B, europeanSeparator), (0x208C, 0x208E, otherNeutral),
  (0x2090, 0x209C, leftToRight), (0x20A0, 0x20C0, europeanTerminator),
  (0x20D0, 0x20F0, nonspacingMark), (0x2100, 0x2101, otherNeutral), (0x2102, 0x2102, leftToRight),
  (0x2103, 0x2106, otherNeutral), (0x2107, 0x2107, leftToRight), (0x2108, 0x2109, otherNeutral),
  (0x210A, 0x2113, leftToRight), (0x2114, 0x2114, otherNeutral), (0x2115, 0x2115, leftToRight),
  (0x2116, 0x2118, otherNeutral), (0x2119, 0x211D, leftToRight), (0x211E, 0x2123, otherNeutral),
  (0x2124, 0x2124, leftToRight), (0x2125, 0x2125, otherNeutral), (0x2126, 0x2126, leftToRight),
  (0x2127, 0x2127, otherNeutral), (0x2128, 0x2128, leftToRight), (0x2129, 0x2129, otherNeutral),
  (0x212A, 0x212D, leftToRight), (0x212E, 0x212E, europeanTerminator),
  (0x212F, 0x2139, leftToRight), (0x213A, 0x213B, otherNeutral), (0x213C, 0x213F, leftToRight),
  (0x2140, 0x2144, otherNeutral), (0x2145, 0x2149, leftToRight), (0x214A, 0x214D, otherNeutral),
  (0x214E, 0x214F, leftToRight), (0x2150, 0x215F, otherNeutral), (0x2160, 0x2188, leftToRight),
  (0x2189, 0x218B, otherNeutral), (0x2190, 0x2211, otherNeutral),
  (0x2212, 0x2212, europeanSeparator), (0x2213, 0x2213, europeanTerminator),
  (0x2214, 0x2335, otherNeutral), (0x2336, 0x237A, leftToRight), (0x237B, 0x2394, otherNeutral),
  (0x2395, 0x2395, leftToRight), (0x2396, 0x2426, otherNeutral), (0x2440, 0x244A, otherNeutral),
  (0x2460, 0x2487, otherNeutral), (0x2488, 0x249B, europeanNumber), (0x249C, 0x24E9, leftToRight),
  (0x24EA, 0x26AB, otherNeutral), (0x26AC, 0x26AC, leftToRight), (0x26AD, 0x27FF, otherNeutral),
  (0x2800, 0x28FF, leftToRight), (0x2900, 0x2B73, otherNeutral), (0x2B76, 0x2B95, otherNeutral),
  (0x2B97, 0x2BFF, otherNeutral), (0x2C00, 0x2CE4, leftToRight), (0x2CE5, 0x2CEA, otherNeutral),
  (0x2CEB, 0x2CEE, leftToRight), (0x2CEF, 0x2CF1, nonspacingMark), (0x2CF2, 0x2CF3, leftToRight),
  (0x2CF9, 0x2CFF, otherNeutral), (0x2D00, 0x2D25, leftToRight), (0x2D27, 0x2D27, leftToRight),
  (0x2D2D, 0x2D2D, leftToRight), (0x2D30, 0x2D67, leftToRight), (0x2D6F, 0x2D70, leftToRight),
  (0x2D7F, 0x2D7F, nonspacingMark), (0x2D80, 0x2D96, leftToRight), (0x2DA0, 0x2DA6, leftToRight),
  (0x2DA8, 0x2DAE, leftToRight), (0x2DB0, 0x2DB6, leftToRight), (0x2DB8, 0x2DBE, leftToRight),
  (0x2DC0, 0x2DC6, leftToRight), (0x2DC8, 0x2DCE, leftToRight), (0x2DD0, 0x2DD6, leftToRight),
  (0x2DD8, 0x2DDE, leftToRight), (0x2DE0, 0x2DFF, nonspacingMark), (0x2E00, 0x2E5D, otherNeutral),
  (0x2E80, 0x2E99, otherNeutral), (0x2E9B, 0x2EF3, otherNeutral), (0x2F00, 0x2FD5, otherNeutral),
  (0x2FF0, 0x2FFB, otherNeutral), (0x3000, 0x3000, other), (0x3001, 0x3004, otherNeutral),
  (0x3005, 0x3007, leftToRight), (0x3008, 0x3020, otherNeutral), (0x3021, 0x3029, leftToRight),
  (0x302A, 0x302D, nonspacingMark), (0x302E, 0x302F, leftToRight), (0x3030, 0x3030, otherNeutral),
  (0x3031, 0x3035, leftToRight), (0x3036, 0x3037, otherNeutral), (0x3038, 0x303C, leftToRight),
  (0x303D, 0x303F, otherNeutral), (0x3041, 0x3096, leftToRight), (0x3099, 0x309A, nonspacingMark),
  (0x309B, 0x309C, otherNeutral), (0x309D, 0x309F, leftToRight), (0x30A0, 0x30A0, otherNeutral),
  (0x30A1, 0x30FA, leftToRight), (0x30FB, 0x30FB, otherNeutral), (0x30FC, 0x30FF, leftToRight),
  (0x3105, 0x312F, leftToRight), (0x3131, 0x318E, leftToRight), (0x3190, 0x31BF, leftToRight),
  (0x31C0, 0x31E3, otherNeutral), (0x31F0, 0x321C, leftToRight), (0x321D, 0x321E, otherNeutral),
  (0x3220, 0x324F, leftToRight), (0x3250, 0x325F, otherNeutral), (0x3260, 0x327B, leftToRight),
  (0x327C, 0x327E, otherNeutral), (0x327F, 0x32B0, leftToRight), (0x32B1, 0x32BF, otherNeutral),
  (0x32C0, 0x32CB, leftToRight), (0x32CC, 0x32CF, otherNeutral), (0x32D0, 0x3376, leftToRight),
  (0x3377, 0x337A, otherNeutral), (0x337B, 0x33DD, leftToRight), (0x33DE, 0x33DF, otherNeutral),
  (0x33E0, 0x33FE, leftToRight), (0x33FF, 0x33FF, otherNeutral), (0x3400, 0x4DBF, leftToRight),
  (0x4DC0, 0x4DFF, otherNeutral), (0x4E00, 0xA48C, leftToRight), (0xA490, 0xA4C6, otherNeutral),
  (0xA4D0, 0xA60C, leftToRight), (0xA60D, 0xA60F, otherNeutral), (0xA610, 0xA62B, leftToRight),
  (0xA640, 0xA66E, leftToRight), (0xA66F, 0xA672, nonspacingMark), (0xA673, 0xA673, otherNeutral),
  (0xA674, 0xA67D, nonspacingMark), (0xA67E, 0xA67F, otherNeutral), (0xA680, 0xA69D, leftToRight),
  (0xA69E, 0xA69F, nonspacingMark), (0xA6A0, 0xA6EF, leftToRight), (0xA6F0, 0xA6F1, nonspacingMark),
  (0xA6F2, 0xA6F7, leftToRight), (0xA700, 0xA721, otherNeutral), (0xA722, 0xA787, leftToRight),
  (0xA788, 0xA788, otherNeutral), (0xA789, 0xA7CA, leftToRight), (0xA7D0, 0xA7D1, leftToRight),
  (0xA7D3, 0xA7D3, leftToRight), (0xA7D5, 0xA7D9, leftToRight), (0xA7F2, 0xA801, leftToRight),
  (0xA802, 0xA802, nonspacingMark), (0xA803, 0xA805, leftToRight), (0xA806, 0xA806, nonspacingMark),
  (0xA807, 0xA80A, leftToRight), (0xA80B, 0xA80B, nonspacingMark), (0xA80C, 0xA824, leftToRight),
  (0xA825, 0xA826, nonspacingMark), (0xA827, 0xA827, leftToRight), (0xA828, 0xA82B, otherNeutral),
  (0xA82C, 0xA82C, nonspacingMark), (0xA830, 0xA837, leftToRight),
  (0xA838, 0xA839, europeanTerminator), (0xA840, 0xA873, leftToRight),
  (0xA874, 0xA877, otherNeutral), (0xA880, 0xA8C3, leftToRight), (0xA8C4, 0xA8C5, nonspacingMark),
  (0xA8CE, 0xA8D9, leftToRight), (0xA8E0, 0xA8F1, nonspacingMark), (0xA8F2, 0xA8FE, leftToRight),
  (0xA8FF, 0xA8FF, nonspacingMark), (0xA900, 0xA925, leftToRight), (0xA926, 0xA92D, nonspacingMark),
  (0xA92E, 0xA946, leftToRight), (0xA947, 0xA951, nonspacingMark), (0xA952, 0xA953, leftToRight),
  (0xA95F, 0xA97C, leftToRight), (0xA980, 0xA982, nonspacingMark), (0xA983, 0xA9B2, leftToRight),
  (0xA9B3, 0xA9B3, nonspacingMark), (0xA9B4, 0xA9B5, leftToRight), (0xA9B6, 0xA9B9, nonspacingMark),
  (0xA9BA, 0xA9BB, leftToRight), (0xA9BC, 0xA9BD, nonspacingMark), (0xA9BE, 0xA9CD, leftToRight),
  (0xA9CF, 0xA9D9, leftToRight), (0xA9DE, 0xA9E4, leftToRight), (0xA9E5, 0xA9E5, nonspacingMark),
  (0xA9E6, 0xA9FE, leftToRight), (0xAA00, 0xAA28, leftToRight), (0xAA29, 0xAA2E, nonspacingMark),
  (0xAA2F, 0xAA30, leftToRight), (0xAA31, 0xAA32, nonspacingMark), (0xAA33, 0xAA34, leftToRight),
  (0xAA35, 0xAA36, nonspacingMark), (0xAA40, 0xAA42, leftToRight), (0xAA43, 0xAA43, nonspacingMark),
  (0xAA44, 0xAA4B, leftToRight), (0xAA4C, 0xAA4C, nonspacingMark), (0xAA4D, 0xAA4D, leftToRight),
  (0xAA50, 0xAA59, leftToRight), (0xAA5C, 0xAA7B, leftToRight), (0xAA7C, 0xAA7C, nonspacingMark),
  (0xAA7D, 0xAAAF, leftToRight), (0xAAB0, 0xAAB0, nonspacingMark), (0xAAB1, 0xAAB1, leftToRight),
  (0xAAB2, 0xAAB4, nonspacingMark), (0xAAB5, 0xAAB6, leftToRight), (0xAAB7, 0xAAB8, nonspacingMark),
  (0xAAB9, 0xAABD, leftToRight), (0xAABE, 0xAABF, nonspacingMark), (0xAAC0, 0xAAC0, leftToRight),
  (0xAAC1, 0xAAC1, nonspacingMark), (0xAAC2, 0xAAC2, leftToRight), (0xAADB, 0xAAEB, leftToRight),
  (0xAAEC, 0xAAED, nonspacingMark), (0xAAEE, 0xAAF5, leftToRight), (0xAAF6, 0xAAF6, nonspacingMark),
  (0xAB01, 0xAB06, leftToRight), (0xAB09, 0xAB0E, leftToRight), (0xAB11, 0xAB16, leftToRight),
  (0xAB20, 0xAB26, leftToRight), (0xAB28, 0xAB2E, leftToRight), (0xAB30, 0xAB69, leftToRight),
  (0xAB6A, 0xAB6B, otherNeutral), (0xAB70, 0xABE4, leftToRight), (0xABE5, 0xABE5, nonspacingMark),
  (0xABE6, 0xABE7, leftToRight), (0xABE8, 0xABE8, nonspacingMark), (0xABE9, 0xABEC, leftToRight),
  (0xABED, 0xABED, nonspacingMark), (0xABF0, 0xABF9, leftToRight), (0xAC00, 0xD7A3, leftToRight),
  (0xD7B0, 0xD7C6, leftToRight), (0xD7CB, 0xD7FB, leftToRight), (0xD800, 0xFA6D, leftToRight),
  (0xFA70, 0xFAD9, leftToRight), (0xFB00, 0xFB06, leftToRight), (0xFB13, 0xFB17, leftToRight),
  (0xFB1D, 0xFB1D, rightToLeft), (0xFB1E, 0xFB1E, nonspacingMark), (0xFB1F, 0xFB28, rightToLeft),
  (0xFB29, 0xFB29, europeanSeparator), (0xFB2A, 0xFB36, rightToLeft), (0xFB38, 0xFB3C, rightToLeft),
  (0xFB3E, 0xFB3E, rightToLeft), (0xFB40, 0xFB41, rightToLeft), (0xFB43, 0xFB44, rightToLeft),
  (0xFB46, 0xFB4F, rightToLeft), (0xFB50, 0xFBC2, arabicLetter), (0xFBD3, 0xFD3D, arabicLetter),
  (0xFD3E, 0xFD4F, otherNeutral), (0xFD50, 0xFD8F, arabicLetter), (0xFD92, 0xFDC7, arabicLetter),
  (0xFDCF, 0xFDCF, otherNeutral), (0xFDF0, 0xFDFC, arabicLetter), (0xFDFD, 0xFDFF, otherNeutral),
  (0xFE00, 0xFE0F, nonspacingMark), (0xFE10, 0xFE19, otherNeutral),
  (0xFE20, 0xFE2F, nonspacingMark), (0xFE30, 0xFE4F, otherNeutral),
  (0xFE50, 0xFE50, commonSeparator), (0xFE51, 0xFE51, otherNeutral),
  (0xFE52, 0xFE52, commonSeparator), (0xFE54, 0xFE54, otherNeutral),
  (0xFE55, 0xFE55, commonSeparator), (0xFE56, 0xFE5E, otherNeutral),
  (0xFE5F, 0xFE5F, europeanTerminator), (0xFE60, 0xFE61, otherNeutral),
  (0xFE62, 0xFE63, europeanSeparator), (0xFE64, 0xFE66, otherNeutral),
  (0xFE68, 0xFE68, otherNeutral), (0xFE69, 0xFE6A, europeanTerminator),
  (0xFE6B, 0xFE6B, otherNeutral), (0xFE70, 0xFE74, arabicLetter), (0xFE76, 0xFEFC, arabicLetter),
  (0xFEFF, 0xFEFF, boundaryNeutral), (0xFF01, 0xFF02, otherNeutral),
  (0xFF03, 0xFF05, europeanTerminator), (0xFF06, 0xFF0A, otherNeutral),
  (0xFF0B, 0xFF0B, europeanSeparator), (0xFF0C, 0xFF0C, commonSeparator),
  (0xFF0D, 0xFF0D, europeanSeparator), (0xFF0E, 0xFF0F, commonSeparator),
  (0xFF10, 0xFF19, europeanNumber), (0xFF1A, 0xFF1A, commonSeparator),
  (0xFF1B, 0xFF20, otherNeutral), (0xFF21, 0xFF3A, leftToRight), (0xFF3B, 0xFF40, otherNeutral),
  (0xFF41, 0xFF5A, leftToRight), (0xFF5B, 0xFF65, otherNeutral), (0xFF66, 0xFFBE, leftToRight),
  (0xFFC2, 0xFFC7, leftToRight), (0xFFCA, 0xFFCF, leftToRight), (0xFFD2, 0xFFD7, leftToRight),
  (0xFFDA, 0xFFDC, leftToRight), (0xFFE0, 0xFFE1, europeanTerminator),
  (0xFFE2, 0xFFE4, otherNeutral), (0xFFE5, 0xFFE6, europeanTerminator),
  (0xFFE8, 0xFFEE, otherNeutral), (0xFFF9, 0xFFFD, otherNeutral), (0x10000, 0x1000B, leftToRight),
  (0x1000D, 0x10026, leftToRight), (0x10028, 0x1003A, leftToRight), (0x1003C, 0x1003D, leftToRight),
  (0x1003F, 0x1004D, leftToRight), (0x10050, 0x1005D, leftToRight), (0x10080, 0x100FA, leftToRight),
  (0x10100, 0x10100, leftToRight), (0x10101, 0x10101, otherNeutral),
  (0x10102, 0x10102, leftToRight), (0x10107, 0x10133, leftToRight), (0x10137, 0x1013F, leftToRight),
  (0x10140, 0x1018C, otherNeutral), (0x1018D, 0x1018E, leftToRight),
  (0x10190, 0x1019C, otherNeutral), (0x101A0, 0x101A0, otherNeutral),
  (0x101D0, 0x101FC, leftToRight), (0x101FD, 0x101FD, nonspacingMark),
  (0x10280, 0x1029C, leftToRight), (0x102A0, 0x102D0, leftToRight),
  (0x102E0, 0x102E0, nonspacingMark), (0x102E1, 0x102FB, europeanNumber),
  (0x10300, 0x10323, leftToRight), (0x1032D, 0x1034A, leftToRight), (0x10350, 0x10375, leftToRight),
  (0x10376, 0x1037A, nonspacingMark), (0x10380, 0x1039D, leftToRight),
  (0x1039F, 0x103C3, leftToRight), (0x103C8, 0x103D5, leftToRight), (0x10400, 0x1049D, leftToRight),
  (0x104A0, 0x104A9, leftToRight), (0x104B0, 0x104D3, leftToRight), (0x104D8, 0x104FB, leftToRight),
  (0x10500, 0x10527, leftToRight), (0x10530, 0x10563, leftToRight), (0x1056F, 0x1057A, leftToRight),
  (0x1057C, 0x1058A, leftToRight), (0x1058C, 0x10592, leftToRight), (0x10594, 0x10595, leftToRight),
  (0x10597, 0x105A1, leftToRight), (0x105A3, 0x105B1, leftToRight), (0x105B3, 0x105B9, leftToRight),
  (0x105BB, 0x105BC, leftToRight), (0x10600, 0x10736, leftToRight), (0x10740, 0x10755, leftToRight),
  (0x10760, 0x10767, leftToRight), (0x10780, 0x10785, leftToRight), (0x10787, 0x107B0, leftToRight),
  (0x107B2, 0x107BA, leftToRight), (0x10800, 0x10805, rightToLeft), (0x10808, 0x10808, rightToLeft),
  (0x1080A, 0x10835, rightToLeft), (0x10837, 0x10838, rightToLeft), (0x1083C, 0x1083C, rightToLeft),
  (0x1083F, 0x10855, rightToLeft), (0x10857, 0x1089E, rightToLeft), (0x108A7, 0x108AF, rightToLeft),
  (0x108E0, 0x108F2, rightToLeft), (0x108F4, 0x108F5, rightToLeft), (0x108FB, 0x1091B, rightToLeft),
  (0x1091F, 0x1091F, otherNeutral), (0x10920, 0x10939, rightToLeft),
  (0x1093F, 0x1093F, rightToLeft), (0x10980, 0x109B7, rightToLeft), (0x109BC, 0x109CF, rightToLeft),
  (0x109D2, 0x10A00, rightToLeft), (0x10A01, 0x10A03, nonspacingMark),
  (0x10A05, 0x10A06, nonspacingMark), (0x10A0C, 0x10A0F, nonspacingMark),
  (0x10A10, 0x10A13, rightToLeft), (0x10A15, 0x10A17, rightToLeft), (0x10A19, 0x10A35, rightToLeft),
  (0x10A38, 0x10A3A, nonspacingMark), (0x10A3F, 0x10A3F, nonspacingMark),
  (0x10A40, 0x10A48, rightToLeft), (0x10A50, 0x10A58, rightToLeft), (0x10A60, 0x10A9F, rightToLeft),
  (0x10AC0, 0x10AE4, rightToLeft), (0x10AE5, 0x10AE6, nonspacingMark),
  (0x10AEB, 0x10AF6, rightToLeft), (0x10B00, 0x10B35, rightToLeft),
  (0x10B39, 0x10B3F, otherNeutral), (0x10B40, 0x10B55, rightToLeft),
  (0x10B58, 0x10B72, rightToLeft), (0x10B78, 0x10B91, rightToLeft), (0x10B99, 0x10B9C, rightToLeft),
  (0x10BA9, 0x10BAF, rightToLeft), (0x10C00, 0x10C48, rightToLeft), (0x10C80, 0x10CB2, rightToLeft),
  (0x10CC0, 0x10CF2, rightToLeft), (0x10CFA, 0x10CFF, rightToLeft),
  (0x10D00, 0x10D23, arabicLetter), (0x10D24, 0x10D27, nonspacingMark),
  (0x10D30, 0x10D39, arabicNumber), (0x10E60, 0x10E7E, arabicNumber),
  (0x10E80, 0x10EA9, rightToLeft), (0x10EAB, 0x10EAC, nonspacingMark),
  (0x10EAD, 0x10EAD, rightToLeft), (0x10EB0, 0x10EB1, rightToLeft), (0x10F00, 0x10F27, rightToLeft),
  (0x10F30, 0x10F45, arabicLetter), (0x10F46, 0x10F50, nonspacingMark),
  (0x10F51, 0x10F59, arabicLetter), (0x10F70, 0x10F81, rightToLeft),
  (0x10F82, 0x10F85, nonspacingMark), (0x10F86, 0x10F89, rightToLeft),
  (0x10FB0, 0x10FCB, rightToLeft), (0x10FE0, 0x10FF6, rightToLeft), (0x11000, 0x11000, leftToRight),
  (0x11001, 0x11001, nonspacingMark), (0x11002, 0x11037, leftToRight),
  (0x11038, 0x11046, nonspacingMark), (0x11047, 0x1104D, leftToRight),
  (0x11052, 0x11065, otherNeutral), (0x11066, 0x1106F, leftToRight),
  (0x11070, 0x11070, nonspacingMark), (0x11071, 0x11072, leftToRight),
  (0x11073, 0x11074, nonspacingMark), (0x11075, 0x11075, leftToRight),
  (0x1107F, 0x11081, nonspacingMark), (0x11082, 0x110B2, leftToRight),
  (0x110B3, 0x110B6, nonspacingMark), (0x110B7, 0x110B8, leftToRight),
  (0x110B9, 0x110BA, nonspacingMark), (0x110BB, 0x110C1, leftToRight),
  (0x110C2, 0x110C2, nonspacingMark), (0x110CD, 0x110CD, leftToRight),
  (0x110D0, 0x110E8, leftToRight), (0x110F0, 0x110F9, leftToRight),
  (0x11100, 0x11102, nonspacingMark), (0x11103, 0x11126, leftToRight),
  (0x11127, 0x1112B, nonspacingMark), (0x1112C, 0x1112C, leftToRight),
  (0x1112D, 0x11134, nonspacingMark), (0x11136, 0x11147, leftToRight),
  (0x11150, 0x11172, leftToRight), (0x11173, 0x11173, nonspacingMark),
  (0x11174, 0x11176, leftToRight), (0x11180, 0x11181, nonspacingMark),
  (0x11182, 0x111B5, leftToRight), (0x111B6, 0x111BE, nonspacingMark),
  (0x111BF, 0x111C8, leftToRight), (0x111C9, 0x111CC, nonspacingMark),
  (0x111CD, 0x111CE, leftToRight), (0x111CF, 0x111CF, nonspacingMark),
  (0x111D0, 0x111DF, leftToRight), (0x111E1, 0x111F4, leftToRight), (0x11200, 0x11211, leftToRight),
  (0x11213, 0x1122E, leftToRight), (0x1122F, 0x11231, nonspacingMark),
  (0x11232, 0x11233, leftToRight), (0x11234, 0x11234, nonspacingMark),
  (0x11235, 0x11235, leftToRight), (0x11236, 0x11237, nonspacingMark),
  (0x11238, 0x1123D, leftToRight), (0x1123E, 0x1123E, nonspacingMark),
  (0x11280, 0x11286, leftToRight), (0x11288, 0x11288, leftToRight), (0x1128A, 0x1128D, leftToRight),
  (0x1128F, 0x1129D, leftToRight), (0x1129F, 0x112A9, leftToRight), (0x112B0, 0x112DE, leftToRight),
  (0x112DF, 0x112DF, nonspacingMark), (0x112E0, 0x112E2, leftToRight),
  (0x112E3, 0x112EA, nonspacingMark), (0x112F0, 0x112F9, leftToRight),
  (0x11300, 0x11301, nonspacingMark), (0x11302, 0x11303, leftToRight),
  (0x11305, 0x1130C, leftToRight), (0x1130F, 0x11310, leftToRight), (0x11313, 0x11328, leftToRight),
  (0x1132A, 0x11330, leftToRight), (0x11332, 0x11333, leftToRight), (0x11335, 0x11339, leftToRight),
  (0x1133B, 0x1133C, nonspacingMark), (0x1133D, 0x1133F, leftToRight),
  (0x11340, 0x11340, nonspacingMark), (0x11341, 0x11344, leftToRight),
  (0x11347, 0x11348, leftToRight), (0x1134B, 0x1134D, leftToRight), (0x11350, 0x11350, leftToRight),
  (0x11357, 0x11357, leftToRight), (0x1135D, 0x11363, leftToRight),
  (0x11366, 0x1136C, nonspacingMark), (0x11370, 0x11374, nonspacingMark),
  (0x11400, 0x11437, leftToRight), (0x11438, 0x1143F, nonspacingMark),
  (0x11440, 0x11441, leftToRight), (0x11442, 0x11444, nonspacingMark),
  (0x11445, 0x11445, leftToRight), (0x11446, 0x11446, nonspacingMark),
  (0x11447, 0x1145B, leftToRight), (0x1145D, 0x1145D, leftToRight),
  (0x1145E, 0x1145E, nonspacingMark), (0x1145F, 0x11461, leftToRight),
  (0x11480, 0x114B2, leftToRight), (0x114B3, 0x114B8, nonspacingMark),
  (0x114B9, 0x114B9, leftToRight), (0x114BA, 0x114BA, nonspacingMark),
  (0x114BB, 0x114BE, leftToRight), (0x114BF, 0x114C0, nonspacingMark),
  (0x114C1, 0x114C1, leftToRight), (0x114C2, 0x114C3, nonspacingMark),
  (0x114C4, 0x114C7, leftToRight), (0x114D0, 0x114D9, leftToRight), (0x11580, 0x115B1, leftToRight),
  (0x115B2, 0x115B5, nonspacingMark), (0x115B8, 0x115BB, leftToRight),
  (0x115BC, 0x115BD, nonspacingMark), (0x115BE, 0x115BE, leftToRight),
  (0x115BF, 0x115C0, nonspacingMark), (0x115C1, 0x115DB, leftToRight),
  (0x115DC, 0x115DD, nonspacingMark), (0x11600, 0x11632, leftToRight),
  (0x11633, 0x1163A, nonspacingMark), (0x1163B, 0x1163C, leftToRight),
  (0x1163D, 0x1163D, nonspacingMark), (0x1163E, 0x1163E, leftToRight),
  (0x1163F, 0x11640, nonspacingMark), (0x11641, 0x11644, leftToRight),
  (0x11650, 0x11659, leftToRight), (0x11660, 0x1166C, otherNeutral),
  (0x11680, 0x116AA, leftToRight), (0x116AB, 0x116AB, nonspacingMark),
  (0x116AC, 0x116AC, leftToRight), (0x116AD, 0x116AD, nonspacingMark),
  (0x116AE, 0x116AF, leftToRight), (0x116B0, 0x116B5, nonspacingMark),
  (0x116B6, 0x116B6, leftToRight), (0x116B7, 0x116B7, nonspacingMark),
  (0x116B8, 0x116B9, leftToRight), (0x116C0, 0x116C9, leftToRight), (0x11700, 0x1171A, leftToRight),
  (0x1171D, 0x1171F, nonspacingMark), (0x11720, 0x11721, leftToRight),
  (0x11722, 0x11725, nonspacingMark), (0x11726, 0x11726, leftToRight),
  (0x11727, 0x1172B, nonspacingMark), (0x11730, 0x11746, leftToRight),
  (0x11800, 0x1182E, leftToRight), (0x1182F, 0x11837, nonspacingMark),
  (0x11838, 0x11838, leftToRight), (0x11839, 0x1183A, nonspacingMark),
  (0x1183B, 0x1183B, leftToRight), (0x118A0, 0x118F2, leftToRight), (0x118FF, 0x11906, leftToRight),
  (0x11909, 0x11909, leftToRight), (0x1190C, 0x11913, leftToRight), (0x11915, 0x11916, leftToRight),
  (0x11918, 0x11935, leftToRight), (0x11937, 0x11938, leftToRight),
  (0x1193B, 0x1193C, nonspacingMark), (0x1193D, 0x1193D, leftToRight),
  (0x1193E, 0x1193E, nonspacingMark), (0x1193F, 0x11942, leftToRight),
  (0x11943, 0x11943, nonspacingMark), (0x11944, 0x11946, leftToRight),
  (0x11950, 0x11959, leftToRight), (0x119A0, 0x119A7, leftToRight), (0x119AA, 0x119D3, leftToRight),
  (0x119D4, 0x119D7, nonspacingMark), (0x119DA, 0x119DB, nonspacingMark),
  (0x119DC, 0x119DF, leftToRight), (0x119E0, 0x119E0, nonspacingMark),
  (0x119E1, 0x119E4, leftToRight), (0x11A00, 0x11A00, leftToRight),
  (0x11A01, 0x11A06, nonspacingMark), (0x11A07, 0x11A08, leftToRight),
  (0x11A09, 0x11A0A, nonspacingMark), (0x11A0B, 0x11A32, leftToRight),
  (0x11A33, 0x11A38, nonspacingMark), (0x11A39, 0x11A3A, leftToRight),
  (0x11A3B, 0x11A3E, nonspacingMark), (0x11A3F, 0x11A46, leftToRight),
  (0x11A47, 0x11A47, nonspacingMark), (0x11A50, 0x11A50, leftToRight),
  (0x11A51, 0x11A56, nonspacingMark), (0x11A57, 0x11A58, leftToRight),
  (0x11A59, 0x11A5B, nonspacingMark), (0x11A5C, 0x11A89, leftToRight),
  (0x11A8A, 0x11A96, nonspacingMark), (0x11A97, 0x11A97, leftToRight),
  (0x11A98, 0x11A99, nonspacingMark), (0x11A9A, 0x11AA2, leftToRight),
  (0x11AB0, 0x11AF8, leftToRight), (0x11C00, 0x11C08, leftToRight), (0x11C0A, 0x11C2F, leftToRight),
  (0x11C30, 0x11C36, nonspacingMark), (0x11C38, 0x11C3D, nonspacingMark),
  (0x11C3E, 0x11C45, leftToRight), (0x11C50, 0x11C6C, leftToRight), (0x11C70, 0x11C8F, leftToRight),
  (0x11C92, 0x11CA7, nonspacingMark), (0x11CA9, 0x11CA9, leftToRight),
  (0x11CAA, 0x11CB0, nonspacingMark), (0x11CB1, 0x11CB1, leftToRight),
  (0x11CB2, 0x11CB3, nonspacingMark), (0x11CB4, 0x11CB4, leftToRight),
  (0x11CB5, 0x11CB6, nonspacingMark), (0x11D00, 0x11D06, leftToRight),
  (0x11D08, 0x11D09, leftToRight), (0x11D0B, 0x11D30, leftToRight),
  (0x11D31, 0x11D36, nonspacingMark), (0x11D3A, 0x11D3A, nonspacingMark),
  (0x11D3C, 0x11D3D, nonspacingMark), (0x11D3F, 0x11D45, nonspacingMark),
  (0x11D46, 0x11D46, leftToRight), (0x11D47, 0x11D47, nonspacingMark),
  (0x11D50, 0x11D59, leftToRight), (0x11D60, 0x11D65, leftToRight), (0x11D67, 0x11D68, leftToRight),
  (0x11D6A, 0x11D8E, leftToRight), (0x11D90, 0x11D91, nonspacingMark),
  (0x11D93, 0x11D94, leftToRight), (0x11D95, 0x11D95, nonspacingMark),
  (0x11D96, 0x11D96, leftToRight), (0x11D97, 0x11D97, nonspacingMark),
  (0x11D98, 0x11D98, leftToRight), (0x11DA0, 0x11DA9, leftToRight), (0x11EE0, 0x11EF2, leftToRight),
  (0x11EF3, 0x11EF4, nonspacingMark), (0x11EF5, 0x11EF8, leftToRight),
  (0x11FB0, 0x11FB0, leftToRight), (0x11FC0, 0x11FD4, leftToRight),
  (0x11FD5, 0x11FDC, otherNeutral), (0x11FDD, 0x11FE0, europeanTerminator),
  (0x11FE1, 0x11FF1, otherNeutral), (0x11FFF, 0x12399, leftToRight),
  (0x12400, 0x1246E, leftToRight), (0x12470, 0x12474, leftToRight), (0x12480, 0x12543, leftToRight),
  (0x12F90, 0x12FF2, leftToRight), (0x13000, 0x1342E, leftToRight), (0x13430, 0x13438, leftToRight),
  (0x14400, 0x14646, leftToRight), (0x16800, 0x16A38, leftToRight), (0x16A40, 0x16A5E, leftToRight),
  (0x16A60, 0x16A69, leftToRight), (0x16A6E, 0x16ABE, leftToRight), (0x16AC0, 0x16AC9, leftToRight),
  (0x16AD0, 0x16AED, leftToRight), (0x16AF0, 0x16AF4, nonspacingMark),
  (0x16AF5, 0x16AF5, leftToRight), (0x16B00, 0x16B2F, leftToRight),
  (0x16B30, 0x16B36, nonspacingMark), (0x16B37, 0x16B45, leftToRight),
  (0x16B50, 0x16B59, leftToRight), (0x16B5B, 0x16B61, leftToRight), (0x16B63, 0x16B77, leftToRight),
  (0x16B7D, 0x16B8F, leftToRight), (0x16E40, 0x16E9A, leftToRight), (0x16F00, 0x16F4A, leftToRight),
  (0x16F4F, 0x16F4F, nonspacingMark), (0x16F50, 0x16F87, leftToRight),
  (0x16F8F, 0x16F92, nonspacingMark), (0x16F93, 0x16F9F, leftToRight),
  (0x16FE0, 0x16FE1, leftToRight), (0x16FE2, 0x16FE2, otherNeutral),
  (0x16FE3, 0x16FE3, leftToRight), (0x16FE4, 0x16FE4, nonspacingMark),
  (0x16FF0, 0x16FF1, leftToRight), (0x17000, 0x187F7, leftToRight), (0x18800, 0x18CD5, leftToRight),
  (0x18D00, 0x18D08, leftToRight), (0x1AFF0, 0x1AFF3, leftToRight), (0x1AFF5, 0x1AFFB, leftToRight),
  (0x1AFFD, 0x1AFFE, leftToRight), (0x1B000, 0x1B122, leftToRight), (0x1B150, 0x1B152, leftToRight),
  (0x1B164, 0x1B167, leftToRight), (0x1B170, 0x1B2FB, leftToRight), (0x1BC00, 0x1BC6A, leftToRight),
  (0x1BC70, 0x1BC7C, leftToRight), (0x1BC80, 0x1BC88, leftToRight), (0x1BC90, 0x1BC99, leftToRight),
  (0x1BC9C, 0x1BC9C, leftToRight), (0x1BC9D, 0x1BC9E, nonspacingMark),
  (0x1BC9F, 0x1BC9F, leftToRight), (0x1BCA0, 0x1BCA3, boundaryNeutral),
  (0x1CF00, 0x1CF2D, nonspacingMark), (0x1CF30, 0x1CF46, nonspacingMark),
  (0x1CF50, 0x1CFC3, leftToRight), (0x1D000, 0x1D0F5, leftToRight), (0x1D100, 0x1D126, leftToRight),
  (0x1D129, 0x1D166, leftToRight), (0x1D167, 0x1D169, nonspacingMark),
  (0x1D16A, 0x1D172, leftToRight), (0x1D173, 0x1D17A, boundaryNeutral),
  (0x1D17B, 0x1D182, nonspacingMark), (0x1D183, 0x1D184, leftToRight),
  (0x1D185, 0x1D18B, nonspacingMark), (0x1D18C, 0x1D1A9, leftToRight),
  (0x1D1AA, 0x1D1AD, nonspacingMark), (0x1D1AE, 0x1D1E8, leftToRight),
  (0x1D1E9, 0x1D1EA, otherNeutral), (0x1D200, 0x1D241, otherNeutral),
  (0x1D242, 0x1D244, nonspacingMark), (0x1D245, 0x1D245, otherNeutral),
  (0x1D2E0, 0x1D2F3, leftToRight), (0x1D300, 0x1D356, otherNeutral),
  (0x1D360, 0x1D378, leftToRight), (0x1D400, 0x1D454, leftToRight), (0x1D456, 0x1D49C, leftToRight),
  (0x1D49E, 0x1D49F, leftToRight), (0x1D4A2, 0x1D4A2, leftToRight), (0x1D4A5, 0x1D4A6, leftToRight),
  (0x1D4A9, 0x1D4AC, leftToRight), (0x1D4AE, 0x1D4B9, leftToRight), (0x1D4BB, 0x1D4BB, leftToRight),
  (0x1D4BD, 0x1D4C3, leftToRight), (0x1D4C5, 0x1D505, leftToRight), (0x1D507, 0x1D50A, leftToRight),
  (0x1D50D, 0x1D514, leftToRight), (0x1D516, 0x1D51C, leftToRight), (0x1D51E, 0x1D539, leftToRight),
  (0x1D53B, 0x1D53E, leftToRight), (0x1D540, 0x1D544, leftToRight), (0x1D546, 0x1D546, leftToRight),
  (0x1D54A, 0x1D550, leftToRight), (0x1D552, 0x1D6A5, leftToRight), (0x1D6A8, 0x1D6DA, leftToRight),
  (0x1D6DB, 0x1D6DB, otherNeutral), (0x1D6DC, 0x1D714, leftToRight),
  (0x1D715, 0x1D715, otherNeutral), (0x1D716, 0x1D74E, leftToRight),
  (0x1D74F, 0x1D74F, otherNeutral), (0x1D750, 0x1D788, leftToRight),
  (0x1D789, 0x1D789, otherNeutral), (0x1D78A, 0x1D7C2, leftToRight),
  (0x1D7C3, 0x1D7C3, otherNeutral), (0x1D7C4, 0x1D7CB, leftToRight),
  (0x1D7CE, 0x1D7FF, europeanNumber), (0x1D800, 0x1D9FF, leftToRight),
  (0x1DA00, 0x1DA36, nonspacingMark), (0x1DA37, 0x1DA3A, leftToRight),
  (0x1DA3B, 0x1DA6C, nonspacingMark), (0x1DA6D, 0x1DA74, leftToRight),
  (0x1DA75, 0x1DA75, nonspacingMark), (0x1DA76, 0x1DA83, leftToRight),
  (0x1DA84, 0x1DA84, nonspacingMark), (0x1DA85, 0x1DA8B, leftToRight),
  (0x1DA9B, 0x1DA9F, nonspacingMark), (0x1DAA1, 0x1DAAF, nonspacingMark),
  (0x1DF00, 0x1DF1E, leftToRight), (0x1E000, 0x1E006, nonspacingMark),
  (0x1E008, 0x1E018, nonspacingMark), (0x1E01B, 0x1E021, nonspacingMark),
  (0x1E023, 0x1E024, nonspacingMark), (0x1E026, 0x1E02A, nonspacingMark),
  (0x1E100, 0x1E12C, leftToRight), (0x1E130, 0x1E136, nonspacingMark),
  (0x1E137, 0x1E13D, leftToRight), (0x1E140, 0x1E149, leftToRight), (0x1E14E, 0x1E14F, leftToRight),
  (0x1E290, 0x1E2AD, leftToRight), (0x1E2AE, 0x1E2AE, nonspacingMark),
  (0x1E2C0, 0x1E2EB, leftToRight), (0x1E2EC, 0x1E2EF, nonspacingMark),
  (0x1E2F0, 0x1E2F9, leftToRight), (0x1E2FF, 0x1E2FF, europeanTerminator),
  (0x1E7E0, 0x1E7E6, leftToRight), (0x1E7E8, 0x1E7EB, leftToRight), (0x1E7ED, 0x1E7EE, leftToRight),
  (0x1E7F0, 0x1E7FE, leftToRight), (0x1E800, 0x1E8C4, rightToLeft), (0x1E8C7, 0x1E8CF, rightToLeft),
  (0x1E8D0, 0x1E8D6, nonspacingMark), (0x1E900, 0x1E943, rightToLeft),
  (0x1E944, 0x1E94A, nonspacingMark), (0x1E94B, 0x1E94B, rightToLeft),
  (0x1E950, 0x1E959, rightToLeft), (0x1E95E, 0x1E95F, rightToLeft),
  (0x1EC71, 0x1ECB4, arabicLetter), (0x1ED01, 0x1ED3D, arabicLetter),
  (0x1EE00, 0x1EE03, arabicLetter), (0x1EE05, 0x1EE1F, arabicLetter),
  (0x1EE21, 0x1EE22, arabicLetter), (0x1EE24, 0x1EE24, arabicLetter),
  (0x1EE27, 0x1EE27, arabicLetter), (0x1EE29, 0x1EE32, arabicLetter),
  (0x1EE34, 0x1EE37, arabicLetter), (0x1EE39, 0x1EE39, arabicLetter),
  (0x1EE3B, 0x1EE3B, arabicLetter), (0x1EE42, 0x1EE42, arabicLetter),
  (0x1EE47, 0x1EE47, arabicLetter), (0x1EE49, 0x1EE49, arabicLetter),
  (0x1EE4B, 0x1EE4B, arabicLetter), (0x1EE4D, 0x1EE4F, arabicLetter),
  (0x1EE51, 0x1EE52, arabicLetter), (0x1EE54, 0x1EE54, arabicLetter),
  (0x1EE57, 0x1EE57, arabicLetter), (0x1EE59, 0x1EE59, arabicLetter),
  (0x1EE5B, 0x1EE5B, arabicLetter), (0x1EE5D, 0x1EE5D, arabicLetter),
  (0x1EE5F, 0x1EE5F, arabicLetter), (0x1EE61, 0x1EE62, arabicLetter),
  (0x1EE64, 0x1EE64, arabicLetter), (0x1EE67, 0x1EE6A, arabicLetter),
  (0x1EE6C, 0x1EE72, arabicLetter), (0x1EE74, 0x1EE77, arabicLetter),
  (0x1EE79, 0x1EE7C, arabicLetter), (0x1EE7E, 0x1EE7E, arabicLetter),
  (0x1EE80, 0x1EE89, arabicLetter), (0x1EE8B, 0x1EE9B, arabicLetter),
  (0x1EEA1, 0x1EEA3, arabicLetter), (0x1EEA5, 0x1EEA9, arabicLetter),
  (0x1EEAB, 0x1EEBB, arabicLetter), (0x1EEF0, 0x1EEF1, otherNeutral),
  (0x1F000, 0x1F02B, otherNeutral), (0x1F030, 0x1F093, otherNeutral),
  (0x1F0A0, 0x1F0AE, otherNeutral), (0x1F0B1, 0x1F0BF, otherNeutral),
  (0x1F0C1, 0x1F0CF, otherNeutral), (0x1F0D1, 0x1F0F5, otherNeutral),
  (0x1F100, 0x1F10A, europeanNumber), (0x1F10B, 0x1F10F, otherNeutral),
  (0x1F110, 0x1F12E, leftToRight), (0x1F12F, 0x1F12F, otherNeutral),
  (0x1F130, 0x1F169, leftToRight), (0x1F16A, 0x1F16F, otherNeutral),
  (0x1F170, 0x1F1AC, leftToRight), (0x1F1AD, 0x1F1AD, otherNeutral),
  (0x1F1E6, 0x1F202, leftToRight), (0x1F210, 0x1F23B, leftToRight), (0x1F240, 0x1F248, leftToRight),
  (0x1F250, 0x1F251, leftToRight), (0x1F260, 0x1F265, otherNeutral),
  (0x1F300, 0x1F6D7, otherNeutral), (0x1F6DD, 0x1F6EC, otherNeutral),
  (0x1F6F0, 0x1F6FC, otherNeutral), (0x1F700, 0x1F773, otherNeutral),
  (0x1F780, 0x1F7D8, otherNeutral), (0x1F7E0, 0x1F7EB, otherNeutral),
  (0x1F7F0, 0x1F7F0, otherNeutral), (0x1F800, 0x1F80B, otherNeutral),
  (0x1F810, 0x1F847, otherNeutral), (0x1F850, 0x1F859, otherNeutral),
  (0x1F860, 0x1F887, otherNeutral), (0x1F890, 0x1F8AD, otherNeutral),
  (0x1F8B0, 0x1F8B1, otherNeutral), (0x1F900, 0x1FA53, otherNeutral),
  (0x1FA60, 0x1FA6D, otherNeutral), (0x1FA70, 0x1FA74, otherNeutral),
  (0x1FA78, 0x1FA7C, otherNeutral), (0x1FA80, 0x1FA86, otherNeutral),
  (0x1FA90, 0x1FAAC, otherNeutral), (0x1FAB0, 0x1FABA, otherNeutral),
  (0x1FAC0, 0x1FAC5, otherNeutral), (0x1FAD0, 0x1FAD9, otherNeutral),
  (0x1FAE0, 0x1FAE7, otherNeutral), (0x1FAF0, 0x1FAF6, otherNeutral),
  (0x1FB00, 0x1FB92, otherNeutral), (0x1FB94, 0x1FBCA, otherNeutral),
  (0x1FBF0, 0x1FBF9, europeanNumber), (0x20000, 0x2A6DF, leftToRight),
  (0x2A700, 0x2B738, leftToRight), (0x2B740, 0x2B81D, leftToRight), (0x2B820, 0x2CEA1, leftToRight),
  (0x2CEB0, 0x2EBE0, leftToRight), (0x2F800, 0x2FA1D, leftToRight), (0x30000, 0x3134A, leftToRight),
  (0xE0001, 0xE0001, boundaryNeutral), (0xE0020, 0xE007F, boundaryNeutral),
  (0xE0100, 0xE01EF, nonspacingMark), (0xF0000, 0xFFFFD, leftToRight),
  (0x100000, 0x10FFFD, leftToRight)]

/-- The bidirectional class of a code point, none when it is unassigned. -/
def direction? (n : Nat) : Option Direction :=
  (directionRuns.find? fun (a, b, _) => a ≤ n && n ≤ b).map fun (_, _, d) => d

end Cinema.Text
