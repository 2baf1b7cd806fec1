import RailWatch.Text.Charset.Chart
/-!
# RailWatch.Text.Charset.SingleOctet

Charsets in which each octet is a character.

The lower half of the octets is always ASCII. The charts are of the upper half, with the octets as
numbers of their cells. An octet below A0 without a cell stands for the control character of that
code; one from A0 on without a cell is no character.
-/

namespace RailWatch.Text.Charset

/-- The character of an octet. -/
def Chart.octetChar (chart : Chart) (b : UInt8) : Char :=
  match chart.get? b.toNat with
  | some c => c
  | none => if b < 0xA0 then Char.ofNat b.toNat else Utf8.replacement

/-- The text of octets by the chart of a charset. -/
def readSingle (runs : List CellRun) (octets : List UInt8) : List Char :=
  let chart := Chart.ofRuns 256 runs
  octets.map chart.octetChar

/-- The text of octets in the charset that keeps all octets apart: those of the upper half are
characters for private use. -/
def readPrivate (octets : List UInt8) : List Char :=
  octets.map fun b => Char.ofNat (if b < 0x80 then b.toNat else 0xF700 + b.toNat)

/-- The chart of `ibm866`: Cyrillic, with lines for boxes. -/
def ibm866 : List CellRun := [
    (0x80, "АБВГДЕЖЗИЙКЛМНОПРСТУФХЦЧШЩЪЫЬЭЮЯабвгдежзийклмноп░▒▓│┤╡╢╖╕╣║╗╝╜╛┐└┴┬├─┼╞╟╚╔╩╦╠═╬╧"),
    (0xD0, "╨╤╥╙╘╒╓╫╪┘┌█▄▌▐▀рстуфхцчшщъыьэюяЁёЄєЇїЎў°∙·√№¤■\u00a0")]

/-- The chart of `iso-8859-2`: Latin letters of central Europe. -/
def latin2 : List CellRun := [
    (0xA0, "\u00a0Ą˘Ł¤ĽŚ§¨ŠŞŤŹ\u00adŽŻ°ą˛ł´ľśˇ¸šşťź˝žżŔÁÂĂÄĹĆÇČÉĘËĚÍÎĎĐŃŇÓÔŐÖ×ŘŮÚŰÜÝŢßŕáâăäĺ"),
    (0xE6, "ćçčéęëěíîďđńňóôőö÷řůúűüýţ˙")]

/-- The chart of `iso-8859-3`: Latin letters of southern Europe. -/
def latin3 : List CellRun := [
    (0xA0, "\u00a0Ħ˘£¤ Ĥ§¨İŞĞĴ\u00ad Ż°ħ²³´µĥ·¸ışğĵ½ żÀÁÂ ÄĊĈÇÈÉÊËÌÍÎÏ ÑÒÓÔĠÖ×ĜÙÚÛÜŬŜßàáâ äċ"),
    (0xE6, "ĉçèéêëìíîï ñòóôġö÷ĝùúûüŭŝ˙")]

/-- The chart of `iso-8859-4`: Latin letters of northern Europe. -/
def latin4 : List CellRun := [
    (0xA0, "\u00a0ĄĸŖ¤ĨĻ§¨ŠĒĢŦ\u00adŽ¯°ą˛ŗ´ĩļˇ¸šēģŧŊžŋĀÁÂÃÄÅÆĮČÉĘËĖÍÎĪĐŅŌĶÔÕÖ×ØŲÚÛÜŨŪßāáâãäå"),
    (0xE6, "æįčéęëėíîīđņōķôõö÷øųúûüũū˙")]

/-- The chart of `iso-8859-5`: Latin and Cyrillic. -/
def isoCyrillic : List CellRun := [
    (0xA0, "\u00a0ЁЂЃЄЅІЇЈЉЊЋЌ\u00adЎЏАБВГДЕЖЗИЙКЛМНОПРСТУФХЦЧШЩЪЫЬЭЮЯабвгдежзийклмнопрстуфх"),
    (0xE6, "цчшщъыьэюя№ёђѓєѕіїјљњћќ§ўџ")]

/-- The chart of `iso-8859-6`: Latin and Arabic. -/
def isoArabic : List CellRun := [
    (0xA0, "\u00a0   ¤       ،\u00ad"),
    (0xBB, "\u061b   \u061f \u0621\u0622\u0623\u0624\u0625\u0626\u0627\u0628\u0629\u062a"),
    (0xCB, "\u062b\u062c\u062d\u062e\u062f\u0630\u0631\u0632\u0633\u0634\u0635\u0636\u0637"),
    (0xD8, "\u0638\u0639\u063a     \u0640\u0641\u0642\u0643\u0644\u0645\u0646\u0647\u0648"),
    (0xE9, "\u0649\u064a\u064b\u064c\u064d\u064e\u064f\u0650\u0651\u0652")]

/-- The chart of `iso-8859-7`: Latin and Greek. -/
def isoGreek : List CellRun := [
    (0xA0, "\u00a0‘’£€₯¦§¨©ͺ«¬\u00ad ―°±²³΄΅Ά·ΈΉΊ»Ό½ΎΏΐΑΒΓΔΕΖΗΘΙΚΛΜΝΞΟΠΡ ΣΤΥΦΧΨΩΪΫάέήίΰαβγδε"),
    (0xE6, "ζηθικλμνξοπρςστυφχψωϊϋόύώ")]

/-- The chart of `iso-8859-8`: Latin and Hebrew. -/
def isoHebrew : List CellRun := [
    (0xA0, "\u00a0 ¢£¤¥¦§¨©×«¬\u00ad®¯°±²³´µ¶·¸¹÷»¼½¾"),
    (0xDF, "‗\u05d0\u05d1\u05d2\u05d3\u05d4\u05d5\u05d6\u05d7\u05d8\u05d9\u05da\u05db\u05dc"),
    (0xED, "\u05dd\u05de\u05df\u05e0\u05e1\u05e2\u05e3\u05e4\u05e5\u05e6\u05e7\u05e8\u05e9"),
    (0xFA, "\u05ea  \u200e\u200f")]

/-- The chart of `iso-8859-10`: Nordic Latin letters. -/
def latin6 : List CellRun := [
    (0xA0, "\u00a0ĄĒĢĪĨĶ§ĻĐŠŦŽ\u00adŪŊ°ąēģīĩķ·ļđšŧž―ūŋĀÁÂÃÄÅÆĮČÉĘËĖÍÎÏÐŅŌÓÔÕÖŨØŲÚÛÜÝÞßāáâãäå"),
    (0xE6, "æįčéęëėíîïðņōóôõöũøųúûüýþĸ")]

/-- The chart of `iso-8859-13`: Baltic Latin letters. -/
def latin7 : List CellRun := [
    (0xA0, "\u00a0”¢£¤„¦§Ø©Ŗ«¬\u00ad®Æ°±²³“µ¶·ø¹ŗ»¼½¾æĄĮĀĆÄÅĘĒČÉŹĖĢĶĪĻŠŃŅÓŌÕÖ×ŲŁŚŪÜŻŽßąįāćäå"),
    (0xE6, "ęēčéźėģķīļšńņóōõö÷ųłśūüżž’")]

/-- The chart of `iso-8859-14`: Celtic Latin letters. -/
def latin8 : List CellRun := [
    (0xA0, "\u00a0Ḃḃ£ĊċḊ§Ẁ©ẂḋỲ\u00ad®ŸḞḟĠġṀṁ¶ṖẁṗẃṠỳẄẅṡÀÁÂÃÄÅÆÇÈÉÊËÌÍÎÏŴÑÒÓÔÕÖṪØÙÚÛÜÝŶßàáâãäå"),
    (0xE6, "æçèéêëìíîïŵñòóôõöṫøùúûüýŷÿ")]

/-- The chart of `iso-8859-15`: Latin 1 with the euro sign and letters of French and Finnish. -/
def latin9 : List CellRun := [
    (0xA0, "\u00a0¡¢£€¥Š§š©ª«¬\u00ad®¯°±²³Žµ¶·ž¹º»ŒœŸ¿ÀÁÂÃÄÅÆÇÈÉÊËÌÍÎÏÐÑÒÓÔÕÖ×ØÙÚÛÜÝÞßàáâãäå"),
    (0xE6, "æçèéêëìíîïðñòóôõö÷øùúûüýþÿ")]

/-- The chart of `iso-8859-16`: Latin letters of southeastern Europe. -/
def latin10 : List CellRun := [
    (0xA0, "\u00a0ĄąŁ€„Š§š©Ș«Ź\u00adźŻ°±ČłŽ”¶·žčș»ŒœŸżÀÁÂĂÄĆÆÇÈÉÊËÌÍÎÏĐŃÒÓÔŐÖŚŰÙÚÛÜĘȚßàáâăäć"),
    (0xE6, "æçèéêëìíîïđńòóôőöśűùúûüęțÿ")]

/-- The chart of `koi8-r`: Russian in the order of Latin letters. -/
def koi8Russian : List CellRun := [
    (0x80, "─│┌┐└┘├┤┬┴┼▀▄█▌▐░▒▓⌠■∙√≈≤≥\u00a0⌡°²·÷═║╒ё╓╔╕╖╗╘╙╚╛╜╝╞╟╠╡Ё╢╣╤╥╦╧╨╩╪╫╬©юабцдефгхий"),
    (0xCB, "клмнопярстужвьызшэщчъЮАБЦДЕФГХИЙКЛМНОПЯРСТУЖВЬЫЗШЭЩЧЪ")]

/-- The chart of `koi8-u`: the same with the letters of Ukrainian. -/
def koi8Ukrainian : List CellRun := [
    (0x80, "─│┌┐└┘├┤┬┴┼▀▄█▌▐░▒▓⌠■∙√≈≤≥\u00a0⌡°²·÷═║╒ёє╔ії╗╘╙╚╛ґў╞╟╠╡ЁЄ╣ІЇ╦╧╨╩╪ҐЎ©юабцдефгхий"),
    (0xCB, "клмнопярстужвьызшэщчъЮАБЦДЕФГХИЙКЛМНОПЯРСТУЖВЬЫЗШЭЩЧЪ")]

/-- The chart of `macintosh`: Latin letters with signs of typesetting. -/
def macRoman : List CellRun := [
    (0x80, "ÄÅÇÉÑÖÜáàâäãåçéèêëíìîïñóòôöõúùûü†°¢£§•¶ß®©™´¨≠ÆØ∞±≤≥¥µ∂∑∏π∫ªºΩæø¿¡¬√ƒ≈∆«»…\u00a0"),
    (0xCB, "ÀÃÕŒœ–—“”‘’÷◊ÿŸ⁄€‹›ﬁﬂ‡·‚„‰ÂÊÁËÈÍÎÏÌÓÔ\uf8ffÒÚÛÙıˆ˜¯˘˙˚¸˝˛ˇ")]

/-- The chart of `x-mac-cyrillic`: Cyrillic with signs of typesetting. -/
def macCyrillic : List CellRun := [
    (0x80, "АБВГДЕЖЗИЙКЛМНОПРСТУФХЦЧШЩЪЫЬЭЮЯ†°Ґ£§•¶І®©™Ђђ≠Ѓѓ∞±≤≥іµґЈЄєЇїЉљЊњјЅ¬√ƒ≈∆«»…\u00a0"),
    (0xCB, "ЋћЌќѕ–—“”‘’÷„ЎўЏџ№Ёёяабвгдежзийклмнопрстуфхцчшщъыьэю€")]

/-- The chart of `windows-874`: Thai. -/
def windowsThai : List CellRun := [
    (0x80, "€    …"),
    (0x91, "‘’“”•–—"),
    (0xA0, "\u00a0กขฃคฅฆงจฉชซฌญฎฏฐฑฒณดตถทธนบปผฝพฟภมยรฤลฦวศษสหฬอฮฯะ\u0e31าำ\u0e34\u0e35\u0e36"),
    (0xD7, "\u0e37\u0e38\u0e39\u0e3a    ฿เแโใไๅๆ\u0e47\u0e48\u0e49\u0e4a\u0e4b\u0e4c\u0e4d"),
    (0xEE, "\u0e4e๏๐๑๒๓๔๕๖๗๘๙๚๛")]

/-- The chart of `windows-1250`: Latin letters of central Europe, without most controls. -/
def windowsCentral : List CellRun := [
    (0x80, "€ ‚ „…†‡ ‰Š‹ŚŤŽŹ ‘’“”•–— ™š›śťžź\u00a0ˇ˘Ł¤Ą¦§¨©Ş«¬\u00ad®Ż°±˛ł´µ¶·¸ąş»Ľ˝ľżŔÁÂĂÄĹ"),
    (0xC6, "ĆÇČÉĘËĚÍÎĎĐŃŇÓÔŐÖ×ŘŮÚŰÜÝŢßŕáâăäĺćçčéęëěíîďđńňóôőö÷řůúűüýţ˙")]

/-- The chart of `windows-1251`: Cyrillic. -/
def windowsCyrillic : List CellRun := [
    (0x80, "ЂЃ‚ѓ„…†‡€‰Љ‹ЊЌЋЏђ‘’“”•–— ™љ›њќћџ\u00a0ЎўЈ¤Ґ¦§Ё©Є«¬\u00ad®Ї°±Ііґµ¶·ё№є»јЅѕїАБВГДЕ"),
    (0xC6, "ЖЗИЙКЛМНОПРСТУФХЦЧШЩЪЫЬЭЮЯабвгдежзийклмнопрстуфхцчшщъыьэюя")]

/-- The chart of `windows-1252`: Latin 1 with printed characters in place of most controls. -/
def windowsWestern : List CellRun := [
    (0x80, "€ ‚ƒ„…†‡ˆ‰Š‹Œ Ž  ‘’“”•–—˜™š›œ žŸ\u00a0¡¢£¤¥¦§¨©ª«¬\u00ad®¯°±²³´µ¶·¸¹º»¼½¾¿ÀÁÂÃÄÅ"),
    (0xC6, "ÆÇÈÉÊËÌÍÎÏÐÑÒÓÔÕÖ×ØÙÚÛÜÝÞßàáâãäåæçèéêëìíîïðñòóôõö÷øùúûüýþÿ")]

/-- The chart of `windows-1253`: Greek. -/
def windowsGreek : List CellRun := [
    (0x80, "€ ‚ƒ„…†‡ ‰ ‹     ‘’“”•–— ™ ›    \u00a0΅Ά£¤¥¦§¨© «¬\u00ad®―°±²³΄µ¶·ΈΉΊ»Ό½ΎΏΐΑΒΓΔΕ"),
    (0xC6, "ΖΗΘΙΚΛΜΝΞΟΠΡ ΣΤΥΦΧΨΩΪΫάέήίΰαβγδεζηθικλμνξοπρςστυφχψωϊϋόύώ")]

/-- The chart of `windows-1254`: Latin letters of Turkish. -/
def windowsTurkish : List CellRun := [
    (0x80, "€ ‚ƒ„…†‡ˆ‰Š‹Œ    ‘’“”•–—˜™š›œ  Ÿ\u00a0¡¢£¤¥¦§¨©ª«¬\u00ad®¯°±²³´µ¶·¸¹º»¼½¾¿ÀÁÂÃÄÅ"),
    (0xC6, "ÆÇÈÉÊËÌÍÎÏĞÑÒÓÔÕÖ×ØÙÚÛÜİŞßàáâãäåæçèéêëìíîïğñòóôõö÷øùúûüışÿ")]

/-- The chart of `windows-1255`: Hebrew. -/
def windowsHebrew : List CellRun := [
    (0x80, "€ ‚ƒ„…†‡ˆ‰ ‹     ‘’“”•–—˜™ ›    \u00a0¡¢£₪¥¦§¨©×«¬\u00ad®¯°±²³´µ¶·¸¹÷»¼½¾¿\u05b0"),
    (0xC1, "\u05b1\u05b2\u05b3\u05b4\u05b5\u05b6\u05b7\u05b8\u05b9\u05ba\u05bb\u05bc\u05bd"),
    (0xCE, "\u05be\u05bf\u05c0\u05c1\u05c2\u05c3\u05f0\u05f1\u05f2\u05f3\u05f4       \u05d0"),
    (0xE1, "\u05d1\u05d2\u05d3\u05d4\u05d5\u05d6\u05d7\u05d8\u05d9\u05da\u05db\u05dc\u05dd"),
    (0xEE, "\u05de\u05df\u05e0\u05e1\u05e2\u05e3\u05e4\u05e5\u05e6\u05e7\u05e8\u05e9\u05ea"),
    (0xFD, "\u200e\u200f")]

/-- The chart of `windows-1256`: Arabic. -/
def windowsArabic : List CellRun := [
    (0x80, "€\u067e‚ƒ„…†‡ˆ‰\u0679‹Œ\u0686\u0698\u0688\u06af‘’“”•–—\u06a9™\u0691›œ\u200c"),
    (0x9E, "\u200d\u06ba\u00a0،¢£¤¥¦§¨©\u06be«¬\u00ad®¯°±²³´µ¶·¸¹\u061b»¼½¾\u061f\u06c1"),
    (0xC1, "\u0621\u0622\u0623\u0624\u0625\u0626\u0627\u0628\u0629\u062a\u062b\u062c\u062d"),
    (0xCE, "\u062e\u062f\u0630\u0631\u0632\u0633\u0634\u0635\u0636×\u0637\u0638\u0639\u063a"),
    (0xDC, "\u0640\u0641\u0642\u0643à\u0644â\u0645\u0646\u0647\u0648çèéêë\u0649\u064aîï"),
    (0xF0, "\u064b\u064c\u064d\u064eô\u064f\u0650÷\u0651ù\u0652ûü\u200e\u200f\u06d2")]

/-- The chart of `windows-1257`: Baltic Latin letters. -/
def windowsBaltic : List CellRun := [
    (0x80, "€ ‚ „…†‡ ‰ ‹ ¨ˇ¸ ‘’“”•–— ™ › ¯˛ \u00a0 ¢£¤ ¦§Ø©Ŗ«¬\u00ad®Æ°±²³´µ¶·ø¹ŗ»¼½¾æĄĮĀĆÄÅ"),
    (0xC6, "ĘĒČÉŹĖĢĶĪĻŠŃŅÓŌÕÖ×ŲŁŚŪÜŻŽßąįāćäåęēčéźėģķīļšńņóōõö÷ųłśūüżž˙")]

/-- The chart of `windows-1258`: Latin letters of Vietnamese. -/
def windowsVietnamese : List CellRun := [
    (0x80, "€ ‚ƒ„…†‡ˆ‰ ‹Œ    ‘’“”•–—˜™ ›œ  Ÿ\u00a0¡¢£¤¥¦§¨©ª«¬\u00ad®¯°±²³´µ¶·¸¹º»¼½¾¿ÀÁÂĂÄÅ"),
    (0xC6, "ÆÇÈÉÊË\u0300ÍÎÏĐÑ\u0309ÓÔƠÖ×ØÙÚÛÜƯ\u0303ßàáâăäåæçèéêë\u0301íîïđñ\u0323óôơö÷øùúûü"),
    (0xFD, "ư₫ÿ")]

example : readSingle [(0x80, "€")] [0x80, 0x81, 0xA0] = ['€', '\u0081', Utf8.replacement] := by
  decide +kernel

end RailWatch.Text.Charset
