import Storyboard.Markup.Coding
/-!
# Alphabets

Codings of one byte a character: tables of the characters from byte 128 or 160 on. The
replacement character stands where a table has none.
-/
namespace Storyboard.Markup.Coding

/-- ISO 8859-2: Central Europe. -/
def latin2 : Coding :=
  latinAlphabet (tableOf [
    "\xa0Ą˘Ł¤ĽŚ§¨ŠŞŤŹ\xadŽŻ°ą˛ł´ľśˇ¸šşťź˝žżŔÁÂĂÄĹĆÇČÉĘËĚÍÎĎĐŃŇÓÔŐÖ×ŘŮÚŰÜÝŢßŕáâăäĺćçčéęëěíîďđńňóô",
    "őö÷řůúűüýţ˙"])

/-- ISO 8859-3: Southern Europe. -/
def latin3 : Coding :=
  latinAlphabet (tableOf [
    "\xa0Ħ˘£¤�Ĥ§¨İŞĞĴ\xad�Ż°ħ²³´µĥ·¸ışğĵ½�żÀÁÂ�ÄĊĈÇÈÉÊËÌÍÎÏ�ÑÒÓÔĠÖ×ĜÙÚÛÜŬŜßàáâ�äċĉçèéêëìíîï�ñòóô",
    "ġö÷ĝùúûüŭŝ˙"])

/-- ISO 8859-4: Northern Europe. -/
def latin4 : Coding :=
  latinAlphabet (tableOf [
    "\xa0ĄĸŖ¤ĨĻ§¨ŠĒĢŦ\xadŽ¯°ą˛ŗ´ĩļˇ¸šēģŧŊžŋĀÁÂÃÄÅÆĮČÉĘËĖÍÎĪĐŅŌĶÔÕÖ×ØŲÚÛÜŨŪßāáâãäåæįčéęëėíîīđņōķô",
    "õö÷øųúûüũū˙"])

/-- ISO 8859-5. -/
def latinCyrillic : Coding :=
  latinAlphabet (tableOf [
    "\xa0ЁЂЃЄЅІЇЈЉЊЋЌ\xadЎЏАБВГДЕЖЗИЙКЛМНОПРСТУФХЦЧШЩЪЫЬЭЮЯабвгдежзийклмнопрстуфхцчшщъыьэюя№ёђѓє",
    "ѕіїјљњћќ§ўџ"])

/-- ISO 8859-6. -/
def latinArabic : Coding :=
  latinAlphabet (tableOf [
    "\xa0���¤�������،\xad�������������\u061b���\u061f�\u0621\u0622\u0623\u0624\u0625\u0626\u0627",
    "\u0628\u0629\u062a\u062b\u062c\u062d\u062e\u062f\u0630\u0631\u0632\u0633\u0634\u0635\u0636",
    "\u0637\u0638\u0639\u063a�����\u0640\u0641\u0642\u0643\u0644\u0645\u0646\u0647\u0648\u0649",
    "\u064a\u064b\u064c\u064d\u064e\u064f\u0650\u0651\u0652�������������"])

/-- ISO 8859-7. -/
def latinGreek : Coding :=
  latinAlphabet (tableOf [
    "\xa0‘’£€₯¦§¨©ͺ«¬\xad�―°±²³΄΅Ά·ΈΉΊ»Ό½ΎΏΐΑΒΓΔΕΖΗΘΙΚΛΜΝΞΟΠΡ�ΣΤΥΦΧΨΩΪΫάέήίΰαβγδεζηθικλμνξοπρςστ",
    "υφχψωϊϋόύώ�"])

/-- ISO 8859-8. -/
def latinHebrew : Coding :=
  latinAlphabet (tableOf [
    "\xa0�¢£¤¥¦§¨©×«¬\xad®¯°±²³´µ¶·¸¹÷»¼½¾��������������������������������‗\u05d0\u05d1\u05d2",
    "\u05d3\u05d4\u05d5\u05d6\u05d7\u05d8\u05d9\u05da\u05db\u05dc\u05dd\u05de\u05df\u05e0\u05e1",
    "\u05e2\u05e3\u05e4\u05e5\u05e6\u05e7\u05e8\u05e9\u05ea��\u200e\u200f�"])

/-- ISO 8859-9: Turkish. -/
def latin5 : Coding :=
  latinAlphabet (tableOf [
    "\xa0¡¢£¤¥¦§¨©ª«¬\xad®¯°±²³´µ¶·¸¹º»¼½¾¿ÀÁÂÃÄÅÆÇÈÉÊËÌÍÎÏĞÑÒÓÔÕÖ×ØÙÚÛÜİŞßàáâãäåæçèéêëìíîïğñòóô",
    "õö÷øùúûüışÿ"])

/-- ISO 8859-10: Nordic. -/
def latin6 : Coding :=
  latinAlphabet (tableOf [
    "\xa0ĄĒĢĪĨĶ§ĻĐŠŦŽ\xadŪŊ°ąēģīĩķ·ļđšŧž―ūŋĀÁÂÃÄÅÆĮČÉĘËĖÍÎÏÐŅŌÓÔÕÖŨØŲÚÛÜÝÞßāáâãäåæįčéęëėíîïðņōóô",
    "õöũøųúûüýþĸ"])

/-- ISO 8859-11. -/
def latinThai : Coding :=
  latinAlphabet (tableOf [
    "\xa0กขฃคฅฆงจฉชซฌญฎฏฐฑฒณดตถทธนบปผฝพฟภมยรฤลฦวศษสหฬอฮฯะ\u0e31าำ\u0e34\u0e35\u0e36\u0e37\u0e38",
    "\u0e39\u0e3a����฿เแโใไๅๆ\u0e47\u0e48\u0e49\u0e4a\u0e4b\u0e4c\u0e4d\u0e4e๏๐๑๒๓๔๕๖๗๘๙๚๛����"])

/-- ISO 8859-13: Baltic. -/
def latin7 : Coding :=
  latinAlphabet (tableOf [
    "\xa0”¢£¤„¦§Ø©Ŗ«¬\xad®Æ°±²³“µ¶·ø¹ŗ»¼½¾æĄĮĀĆÄÅĘĒČÉŹĖĢĶĪĻŠŃŅÓŌÕÖ×ŲŁŚŪÜŻŽßąįāćäåęēčéźėģķīļšńņóō",
    "õö÷ųłśūüżž’"])

/-- ISO 8859-14: Celtic. -/
def latin8 : Coding :=
  latinAlphabet (tableOf [
    "\xa0Ḃḃ£ĊċḊ§Ẁ©ẂḋỲ\xad®ŸḞḟĠġṀṁ¶ṖẁṗẃṠỳẄẅṡÀÁÂÃÄÅÆÇÈÉÊËÌÍÎÏŴÑÒÓÔÕÖṪØÙÚÛÜÝŶßàáâãäåæçèéêëìíîïŵñòóô",
    "õöṫøùúûüýŷÿ"])

/-- ISO 8859-15: Western Europe with the euro. -/
def latin9 : Coding :=
  latinAlphabet (tableOf [
    "\xa0¡¢£€¥Š§š©ª«¬\xad®¯°±²³Žµ¶·ž¹º»ŒœŸ¿ÀÁÂÃÄÅÆÇÈÉÊËÌÍÎÏÐÑÒÓÔÕÖ×ØÙÚÛÜÝÞßàáâãäåæçèéêëìíîïðñòóô",
    "õö÷øùúûüýþÿ"])

/-- ISO 8859-16: South-Eastern Europe. -/
def latin10 : Coding :=
  latinAlphabet (tableOf [
    "\xa0ĄąŁ€„Š§š©Ș«Ź\xadźŻ°±ČłŽ”¶·žčș»ŒœŸżÀÁÂĂÄĆÆÇÈÉÊËÌÍÎÏĐŃÒÓÔŐÖŚŰÙÚÛÜĘȚßàáâăäćæçèéêëìíîïđńòóô",
    "őöśűùúûüęțÿ"])

def koi8r : Coding :=
  alphabet [] (tableOf [
    "─│┌┐└┘├┤┬┴┼▀▄█▌▐░▒▓⌠■∙√≈≤≥\xa0⌡°²·÷═║╒ё╓╔╕╖╗╘╙╚╛╜╝╞╟╠╡Ё╢╣╤╥╦╧╨╩╪╫╬©юабцдефгхийклмнопярстужв",
    "ьызшэщчъЮАБЦДЕФГХИЙКЛМНОПЯРСТУЖВЬЫЗШЭЩЧЪ"])

def koi8u : Coding :=
  alphabet [] (tableOf [
    "─│┌┐└┘├┤┬┴┼▀▄█▌▐░▒▓⌠■∙√≈≤≥\xa0⌡°²·÷═║╒ёє╔ії╗╘╙╚╛ґ╝╞╟╠╡ЁЄ╣ІЇ╦╧╨╩╪Ґ╬©юабцдефгхийклмнопярстужв",
    "ьызшэщчъЮАБЦДЕФГХИЙКЛМНОПЯРСТУЖВЬЫЗШЭЩЧЪ"])

def koi8ru : Coding :=
  alphabet [] (tableOf [
    "─│┌┐└┘├┤┬┴┼▀▄█▌▐░▒▓“■∙”—№™\xa0»®«·¤═║╒ёє╔ії╗╘╙╚╛ґў╞╟╠╡ЁЄ╣ІЇ╦╧╨╩╪ҐЎ©юабцдефгхийклмнопярстужв",
    "ьызшэщчъЮАБЦДЕФГХИЙКЛМНОПЯРСТУЖВЬЫЗШЭЩЧЪ"])

def windows1250 : Coding :=
  alphabet [] (tableOf [
    "€�‚�„…†‡�‰Š‹ŚŤŽŹ�‘’“”•–—�™š›śťžź\xa0ˇ˘Ł¤Ą¦§¨©Ş«¬\xad®Ż°±˛ł´µ¶·¸ąş»Ľ˝ľżŔÁÂĂÄĹĆÇČÉĘËĚÍÎĎĐŃŇÓÔ",
    "ŐÖ×ŘŮÚŰÜÝŢßŕáâăäĺćçčéęëěíîďđńňóôőö÷řůúűüýţ˙"])

def windows1251 : Coding :=
  alphabet [] (tableOf [
    "ЂЃ‚ѓ„…†‡€‰Љ‹ЊЌЋЏђ‘’“”•–—�™љ›њќћџ\xa0ЎўЈ¤Ґ¦§Ё©Є«¬\xad®Ї°±Ііґµ¶·ё№є»јЅѕїАБВГДЕЖЗИЙКЛМНОПРСТУФ",
    "ХЦЧШЩЪЫЬЭЮЯабвгдежзийклмнопрстуфхцчшщъыьэюя"])

def windows1252 : Coding :=
  alphabet [] (tableOf [
    "€�‚ƒ„…†‡ˆ‰Š‹Œ�Ž��‘’“”•–—˜™š›œ�žŸ\xa0¡¢£¤¥¦§¨©ª«¬\xad®¯°±²³´µ¶·¸¹º»¼½¾¿ÀÁÂÃÄÅÆÇÈÉÊËÌÍÎÏÐÑÒÓÔ",
    "ÕÖ×ØÙÚÛÜÝÞßàáâãäåæçèéêëìíîïðñòóôõö÷øùúûüýþÿ"])

def windows1253 : Coding :=
  alphabet [] (tableOf [
    "€�‚ƒ„…†‡�‰�‹�����‘’“”•–—�™�›����\xa0΅Ά£¤¥¦§¨©�«¬\xad®―°±²³΄µ¶·ΈΉΊ»Ό½ΎΏΐΑΒΓΔΕΖΗΘΙΚΛΜΝΞΟΠΡ�ΣΤ",
    "ΥΦΧΨΩΪΫάέήίΰαβγδεζηθικλμνξοπρςστυφχψωϊϋόύώ�"])

def windows1254 : Coding :=
  alphabet [] (tableOf [
    "€�‚ƒ„…†‡ˆ‰Š‹Œ����‘’“”•–—˜™š›œ��Ÿ\xa0¡¢£¤¥¦§¨©ª«¬\xad®¯°±²³´µ¶·¸¹º»¼½¾¿ÀÁÂÃÄÅÆÇÈÉÊËÌÍÎÏĞÑÒÓÔ",
    "ÕÖ×ØÙÚÛÜİŞßàáâãäåæçèéêëìíîïğñòóôõö÷øùúûüışÿ"])

def windows1255 : Coding :=
  alphabet [] (tableOf [
    "€�‚ƒ„…†‡ˆ‰�‹�����‘’“”•–—˜™�›����\xa0¡¢£₪¥¦§¨©×«¬\xad®¯°±²³´µ¶·¸¹÷»¼½¾¿\u05b0\u05b1\u05b2",
    "\u05b3\u05b4\u05b5\u05b6\u05b7\u05b8\u05b9�\u05bb\u05bc\u05bd\u05be\u05bf\u05c0\u05c1\u05c2",
    "\u05c3\u05f0\u05f1\u05f2\u05f3\u05f4�������\u05d0\u05d1\u05d2\u05d3\u05d4\u05d5\u05d6\u05d7",
    "\u05d8\u05d9\u05da\u05db\u05dc\u05dd\u05de\u05df\u05e0\u05e1\u05e2\u05e3\u05e4\u05e5\u05e6",
    "\u05e7\u05e8\u05e9\u05ea��\u200e\u200f�"])

def windows1256 : Coding :=
  alphabet [] (tableOf [
    "€\u067e‚ƒ„…†‡ˆ‰\u0679‹Œ\u0686\u0698\u0688\u06af‘’“”•–—\u06a9™\u0691›œ\u200c\u200d\u06ba\xa0",
    "،¢£¤¥¦§¨©\u06be«¬\xad®¯°±²³´µ¶·¸¹\u061b»¼½¾\u061f\u06c1\u0621\u0622\u0623\u0624\u0625\u0626",
    "\u0627\u0628\u0629\u062a\u062b\u062c\u062d\u062e\u062f\u0630\u0631\u0632\u0633\u0634\u0635",
    "\u0636×\u0637\u0638\u0639\u063a\u0640\u0641\u0642\u0643à\u0644â\u0645\u0646\u0647\u0648çèéê",
    "ë\u0649\u064aîï\u064b\u064c\u064d\u064eô\u064f\u0650÷\u0651ù\u0652ûü\u200e\u200f\u06d2"])

def windows1257 : Coding :=
  alphabet [] (tableOf [
    "€�‚�„…†‡�‰�‹�¨ˇ¸�‘’“”•–—�™�›�¯˛�\xa0�¢£¤�¦§Ø©Ŗ«¬\xad®Æ°±²³´µ¶·ø¹ŗ»¼½¾æĄĮĀĆÄÅĘĒČÉŹĖĢĶĪĻŠŃŅÓŌ",
    "ÕÖ×ŲŁŚŪÜŻŽßąįāćäåęēčéźėģķīļšńņóōõö÷ųłśūüżž˙"])

def windows1258 : Coding :=
  alphabet [] (tableOf [
    "€�‚ƒ„…†‡ˆ‰�‹Œ����‘’“”•–—˜™�›œ��Ÿ\xa0¡¢£¤¥¦§¨©ª«¬\xad®¯°±²³´µ¶·¸¹º»¼½¾¿ÀÁÂĂÄÅÆÇÈÉÊË\u0300ÍÎÏ",
    "ĐÑ\u0309ÓÔƠÖ×ØÙÚÛÜƯ\u0303ßàáâăäåæçèéêë\u0301íîïđñ\u0323óôơö÷øùúûüư₫ÿ"])

def codePage850 : Coding :=
  alphabet [] (tableOf [
    "ÇüéâäàåçêëèïîìÄÅÉæÆôöòûùÿÖÜø£Ø×ƒáíóúñÑªº¿®¬½¼¡«»░▒▓│┤ÁÂÀ©╣║╗╝¢¥┐└┴┬├─┼ãÃ╚╔╩╦╠═╬¤ðÐÊËÈıÍÎÏ┘┌",
    "█▄¦Ì▀ÓßÔÒõÕµþÞÚÛÙýÝ¯´\xad±‗¾¶§÷¸°¨·¹³²■\xa0"])

def codePage862 : Coding :=
  alphabet [] (tableOf [
    "\u05d0\u05d1\u05d2\u05d3\u05d4\u05d5\u05d6\u05d7\u05d8\u05d9\u05da\u05db\u05dc\u05dd\u05de",
    "\u05df\u05e0\u05e1\u05e2\u05e3\u05e4\u05e5\u05e6\u05e7\u05e8\u05e9\u05ea¢£¥₧ƒáíóúñÑªº¿⌐¬½¼¡",
    "«»░▒▓│┤╡╢╖╕╣║╗╝╜╛┐└┴┬├─┼╞╟╚╔╩╦╠═╬╧╨╤╥╙╘╒╓╫╪┘┌█▄▌▐▀αßΓπΣσµτΦΘΩδ∞φε∩≡±≥≤⌠⌡÷≈°∙·√ⁿ²■\xa0"])

def codePage866 : Coding :=
  alphabet [] (tableOf [
    "АБВГДЕЖЗИЙКЛМНОПРСТУФХЦЧШЩЪЫЬЭЮЯабвгдежзийклмноп░▒▓│┤╡╢╖╕╣║╗╝╜╛┐└┴┬├─┼╞╟╚╔╩╦╠═╬╧╨╤╥╙╘╒╓╫╪┘┌",
    "█▄▌▐▀рстуфхцчшщъыьэюяЁёЄєЇїЎў°∙·√№¤■\xa0"])

def macRoman : Coding :=
  alphabet [] (tableOf [
    "ÄÅÇÉÑÖÜáàâäãåçéèêëíìîïñóòôöõúùûü†°¢£§•¶ß®©™´¨≠ÆØ∞±≤≥¥µ∂∑∏π∫ªºΩæø¿¡¬√ƒ≈∆«»…\xa0ÀÃÕŒœ–—“”‘’÷◊",
    "ÿŸ⁄¤‹›ﬁﬂ‡·‚„‰ÂÊÁËÈÍÎÏÌÓÔ�ÒÚÛÙıˆ˜¯˘˙˚¸˝˛ˇ"])

def macCentralEurope : Coding :=
  alphabet [] (tableOf [
    "ÄĀāÉĄÖÜáąČäčĆćéŹźĎíďĒēĖóėôöõúĚěü†°Ę£§•¶ß®©™ę¨≠ģĮįĪ≤≥īĶ∂∑łĻļĽľĹĺŅņŃ¬√ńŇ∆«»…\xa0ňŐÕőŌ–—“”‘’÷◊",
    "ōŔŕŘ‹›řŖŗŠ‚„šŚśÁŤťÍŽžŪÓÔūŮÚůŰűŲųÝýķŻŁżĢˇ"])

def macIceland : Coding :=
  alphabet [] (tableOf [
    "ÄÅÇÉÑÖÜáàâäãåçéèêëíìîïñóòôöõúùûüÝ°¢£§•¶ß®©™´¨≠ÆØ∞±≤≥¥µ∂∑∏π∫ªºΩæø¿¡¬√ƒ≈∆«»…\xa0ÀÃÕŒœ–—“”‘’÷◊",
    "ÿŸ⁄¤ÐðÞþý·‚„‰ÂÊÁËÈÍÎÏÌÓÔ�ÒÚÛÙıˆ˜¯˘˙˚¸˝˛ˇ"])

def macCroatian : Coding :=
  alphabet [] (tableOf [
    "ÄÅÇÉÑÖÜáàâäãåçéèêëíìîïñóòôöõúùûü†°¢£§•¶ß®Š™´¨≠ŽØ∞±≤≥∆µ∂∑∏š∫ªºΩžø¿¡¬√ƒ≈Ć«Č…\xa0ÀÃÕŒœĐ—“”‘’÷◊",
    "�©⁄¤‹›Æ»–·‚„‰ÂćÁčÈÍÎÏÌÓÔđÒÚÛÙıˆ˜¯πË˚¸Êæˇ"])

def macRomania : Coding :=
  alphabet [] (tableOf [
    "ÄÅÇÉÑÖÜáàâäãåçéèêëíìîïñóòôöõúùûü†°¢£§•¶ß®©™´¨≠ĂȘ∞±≤≥¥µ∂∑∏π∫ªºΩăș¿¡¬√ƒ≈∆«»…\xa0ÀÃÕŒœ–—“”‘’÷◊",
    "ÿŸ⁄¤‹›Țț‡·‚„‰ÂÊÁËÈÍÎÏÌÓÔ�ÒÚÛÙıˆ˜¯˘˙˚¸˝˛ˇ"])

def macCyrillic : Coding :=
  alphabet [] (tableOf [
    "АБВГДЕЖЗИЙКЛМНОПРСТУФХЦЧШЩЪЫЬЭЮЯ†°Ґ£§•¶І®©™Ђђ≠Ѓѓ∞±≤≥іµґЈЄєЇїЉљЊњјЅ¬√ƒ≈∆«»…\xa0ЋћЌќѕ–—“”‘’÷„",
    "ЎўЏџ№Ёёяабвгдежзийклмнопрстуфхцчшщъыьэю¤"])

def macUkraine : Coding :=
  alphabet [] (tableOf [
    "АБВГДЕЖЗИЙКЛМНОПРСТУФХЦЧШЩЪЫЬЭЮЯ†°Ґ£§•¶І®©™Ђђ≠Ѓѓ∞±≤≥іµґЈЄєЇїЉљЊњјЅ¬√ƒ≈∆«»…\xa0ЋћЌќѕ–—“”‘’÷„",
    "ЎўЏџ№Ёёяабвгдежзийклмнопрстуфхцчшщъыьэю¤"])

def macGreek : Coding :=
  alphabet [] (tableOf [
    "Ä¹²É³ÖÜ΅àâä΄¨çéèêë£™îï•½‰ôö¦¤ùûü†ΓΔΘΛΞΠß®©ΣΪ§≠°·Α±≤≥¥ΒΕΖΗΙΚΜΦΫΨΩάΝ¬ΟΡ≈Τ«»…\xa0ΥΧΆΈœ–―“”‘’÷Ή",
    "ΊΌΎέήίόΏύαβψδεφγηιξκλμνοπώρστθωςχυζϊϋΐΰ�"])

def macTurkish : Coding :=
  alphabet [] (tableOf [
    "ÄÅÇÉÑÖÜáàâäãåçéèêëíìîïñóòôöõúùûü†°¢£§•¶ß®©™´¨≠ÆØ∞±≤≥¥µ∂∑∏π∫ªºΩæø¿¡¬√ƒ≈∆«»…\xa0ÀÃÕŒœ–—“”‘’÷◊",
    "ÿŸĞğİıŞş‡·‚„‰ÂÊÁËÈÍÎÏÌÓÔ�ÒÚÛÙ�ˆ˜¯˘˙˚¸˝˛ˇ"])

def roman8 : Coding :=
  latinAlphabet (tableOf [
    "\xa0ÀÂÈÊËÎÏ´ˋˆ¨˜ÙÛ₤¯Ýý°ÇçÑñ¡¿¤£¥§ƒ¢âêôûáéóúàèòùäëöüÅîØÆåíøæÄìÖÜÉïßÔÁÃãÐðÍÌÓÒÕõŠšÚŸÿÞþ·µ¶¾—¼",
    "½ªº«■»±�"])

def armscii8 : Coding :=
  latinAlphabet (tableOf [
    "\xa0�և։)(»«—.՝,-֊…՜՛՞ԱաԲբԳգԴդԵեԶզԷէԸըԹթԺժԻիԼլԽխԾծԿկՀհՁձՂղՃճՄմՅյՆնՇշՈոՉչՊպՋջՌռՍսՎվՏտՐրՑցՒւՓփ",
    "ՔքՕօՖֆ՚�"])

def georgianAcademy : Coding :=
  alphabet [] (tableOf [
    "\x80\x81‚ƒ„…†‡ˆ‰Š‹Œ\x8d\x8e\x8f\x90‘’“”•–—˜™š›œ\x9d\x9eŸ\xa0¡¢£¤¥¦§¨©ª«¬\xad®¯°±²³´µ¶·¸¹º»¼",
    "½¾¿აბგდევზთიკლმნოპჟრსტუფქღყშჩცძწჭხჯჰჱჲჳჴჵჶçèéêëìíîïðñòóôõö÷øùúûüýþÿ"])

def georgianPs : Coding :=
  alphabet [] (tableOf [
    "\x80\x81‚ƒ„…†‡ˆ‰Š‹Œ\x8d\x8e\x8f\x90‘’“”•–—˜™š›œ\x9d\x9eŸ\xa0¡¢£¤¥¦§¨©ª«¬\xad®¯°±²³´µ¶·¸¹º»¼",
    "½¾¿აბგდევზჱთიკლმნჲოპჟრსტჳუფქღყშჩცძწჭხჴჯჰჵæçèéêëìíîïðñòóôõö÷øùúûüýþÿ"])

def koi8t : Coding :=
  alphabet [] (tableOf [
    "қғ‚Ғ„…†‡�‰ҳ‹ҲҷҶ�Қ‘’“”•–—�™�›�����ӯӮё¤ӣ¦§���«¬\xad®�°±²Ё�Ӣ¶·�№�»���©юабцдефгхийклмнопярстужв",
    "ьызшэщчъЮАБЦДЕФГХИЙКЛМНОПЯРСТУЖВЬЫЗШЭЩЧЪ"])

def paratype154 : Coding :=
  alphabet [] (tableOf [
    "ҖҒӮғ„…ҶҮҲүҠӢҢҚҺҸҗ‘’“”•–—ҳҷҡӣңқһҹ\xa0ЎўЈӨҘҰ§Ё©Ә«¬ӯ®Ҝ°ұІіҙө¶·ё№ә»јҪҫҝАБВГДЕЖЗИЙКЛМНОПРСТУФХЦЧ",
    "ШЩЪЫЬЭЮЯабвгдежзийклмнопрстуфхцчшщъыьэюя"])

def kazakh1048 : Coding :=
  alphabet [] (tableOf [
    "ЂЃ‚ѓ„…†‡€‰Љ‹ЊҚҺЏђ‘’“”•–—�™љ›њқһџ\xa0ҰұӘ¤Ө¦§Ё©Ғ«¬\xad®Ү°±Ііөµ¶·ё№ғ»әҢңүАБВГДЕЖЗИЙКЛМНОПРСТУФ",
    "ХЦЧШЩЪЫЬЭЮЯабвгдежзийклмнопрстуфхцчшщъыьэюя"])

def codePage1133 : Coding :=
  latinAlphabet (tableOf [
    "�ກຂຄງຈສຊຍດຕຖທນບປຜຝພຟມຢຣລວຫອຮ���ຯະາຳ\u0eb4\u0eb5\u0eb6\u0eb7\u0eb8\u0eb9\u0ebc\u0eb1\u0ebbຽ�",
    "��ເແໂໃໄ\u0ec8\u0ec9\u0eca\u0ecb\u0ecc\u0ecdໆ�ໜໝk����������������໐໑໒໓໔໕໖໗໘໙��¢¬¦\xa0"])

def thai620 : Coding :=
  alphabet [] (tableOf [
    "���������������������������������กขฃคฅฆงจฉชซฌญฎฏฐฑฒณดตถทธนบปผฝพฟภมยรฤลฦวศษสหฬอฮฯะ\u0e31าำ",
    "\u0e34\u0e35\u0e36\u0e37\u0e38\u0e39\u0e3a����฿เแโใไๅๆ\u0e47\u0e48\u0e49\u0e4a\u0e4b\u0e4c",
    "\u0e4d\u0e4e๏๐๑๒๓๔๕๖๗๘๙๚๛����"])

def codePage874 : Coding :=
  alphabet [] (tableOf [
    "€����…�����������‘’“”•–—��������\xa0กขฃคฅฆงจฉชซฌญฎฏฐฑฒณดตถทธนบปผฝพฟภมยรฤลฦวศษสหฬอฮฯะ\u0e31า",
    "ำ\u0e34\u0e35\u0e36\u0e37\u0e38\u0e39\u0e3a����฿เแโใไๅๆ\u0e47\u0e48\u0e49\u0e4a\u0e4b\u0e4c",
    "\u0e4d\u0e4e๏๐๑๒๓๔๕๖๗๘๙๚๛����"])

def viscii : Coding :=
  alphabet [(0x02, 'Ẳ'), (0x05, 'Ẵ'), (0x06, 'Ẫ'), (0x14, 'Ỷ'), (0x19, 'Ỹ'), (0x1E, 'Ỵ')] (tableOf [
    "ẠẮẰẶẤẦẨẬẼẸẾỀỂỄỆỐỒỔỖỘỢỚỜỞỊỎỌỈỦŨỤỲÕắằặấầẩậẽẹếềểễệốồổỗỠƠộờởịỰỨỪỬơớƯÀÁÂÃẢĂẳẵÈÉÊẺÌÍĨỳĐứÒÓÔạỷừửÙÚ",
    "ỹỵÝỡưàáâãảăữẫèéêẻìíĩỉđựòóôõỏọụùúũủýợỮ"])

def tcvn : Coding :=
  alphabet [
    (0x01, 'Ú'), (0x02, 'Ụ'), (0x04, 'Ừ'), (0x05, 'Ử'), (0x06, 'Ữ'), (0x11, 'Ứ'), (0x12, 'Ự'),
    (0x13, 'Ỳ'), (0x14, 'Ỷ'), (0x15, 'Ỹ'), (0x16, 'Ý'), (0x17, 'Ỵ')]
    (tableOf [
      "ÀẢÃÁẠẶẬÈẺẼÉẸỆÌỈĨÍỊÒỎÕÓỌỘỜỞỠỚỢÙỦŨ\xa0ĂÂÊÔƠƯĐăâêôơưđẰ\u0300\u0309\u0303\u0301\u0323àảãáạẲằẳ",
      "ẵắẴẮẦẨẪẤỀặầẩẫấậèỂẻẽéẹềểễếệìỉỄẾỒĩíịòỔỏõóọồổỗốộờởỡớợùỖủũúụừửữứựỳỷỹýỵỐ"])

def codePage1131 : Coding :=
  alphabet [] (tableOf [
    "АБВГДЕЖЗИЙКЛМНОПРСТУФХЦЧШЩЪЫЬЭЮЯабвгдежзийклмноп░▒▓│┤╡╢╖╕╣║╗╝╜╛┐└┴┬├─┼╞╟╚╔╩╦╠═╬╧╨╤╥╙╘╒╓╫╪┘┌",
    "█▄▌▐▀рстуфхцчшщъыьэюяЁёЄєЇїЎўІі·¤Ґґ∙\xa0"])

def nextStep : Coding :=
  alphabet [] (tableOf [
    "\xa0ÀÁÂÃÄÅÇÈÉÊËÌÍÎÏÐÑÒÓÔÕÖÙÚÛÜÝÞµ×÷©¡¢£⁄¥ƒ§¤’“«‹›ﬁﬂ®–†‡·¦¶•‚„”»…‰¬¿¹ˋ´ˆ˜¯˘˙¨²˚¸³˝˛ˇ—±¼½¾àáâ",
    "ãäåçèéêëìÆíªîïðñŁØŒºòóôõöæùúûıüýłøœßþÿ"])

def macThai : Coding :=
  alphabet [] (tableOf [
    "«»…\uf88c\uf88f\uf892\uf895\uf898\uf88b\uf88e\uf891\uf894\uf897“”\uf899�•\uf884\uf889\uf885",
    "\uf886\uf887\uf888\uf88a\uf88d\uf890\uf893\uf896‘’�\xa0กขฃคฅฆงจฉชซฌญฎฏฐฑฒณดตถทธนบปผฝพฟภมยรฤ",
    "ลฦวศษสหฬอฮฯะ\u0e31าำ\u0e34\u0e35\u0e36\u0e37\u0e38\u0e39\u0e3a\ufeff\u200b–—฿เแโใไๅๆ\u0e47",
    "\u0e48\u0e49\u0e4a\u0e4b\u0e4c\u0e4d™๏๐๑๒๓๔๕๖๗๘๙®©"])

def macHebrew : Coding :=
  alphabet [] (tableOf [
    "Ä\ufb1fÇÉÑÖÜáàâäãåçéèêëíìîïñóòôöõúùûü\x20!\"#$%₪')(*+,-./0123456789:;<=>?�„����\u05bc\ufb4b",
    "\ufb35…\xa0\u05b8\u05b7\u05b5\u05b6\u05b4–—“”‘’\ufb2a\ufb2b\u05bf\u05b0\u05b2\u05b1\u05bb",
    "\u05b9�\u05b3\u05d0\u05d1\u05d2\u05d3\u05d4\u05d5\u05d6\u05d7\u05d8\u05d9\u05da\u05db\u05dc",
    "\u05dd\u05de\u05df\u05e0\u05e1\u05e2\u05e3\u05e4\u05e5\u05e6\u05e7\u05e8\u05e9\u05ea\x7d]",
    "\x7b[|"])

def macArabic : Coding :=
  alphabet [] (tableOf [
    "Ä\xa0ÇÉÑÖÜáàâä\u06ba«çéèêëí…îïñó»ôö÷úùûü\x20!\"#$٪&'()*+،-./\u0660\u0661\u0662\u0663\u0664",
    "\u0665\u0666\u0667\u0668\u0669:\u061b<=>\u061f❊\u0621\u0622\u0623\u0624\u0625\u0626\u0627",
    "\u0628\u0629\u062a\u062b\u062c\u062d\u062e\u062f\u0630\u0631\u0632\u0633\u0634\u0635\u0636",
    "\u0637\u0638\u0639\u063a[\\]^_\u0640\u0641\u0642\u0643\u0644\u0645\u0646\u0647\u0648\u0649",
    "\u064a\u064b\u064c\u064d\u064e\u064f\u0650\u0651\u0652\u067e\u0679\u0686\u06d5\u06a4\u06af",
    "\u0688\u0691\x7b|\x7d\u0698\u06d2"])

def muleLao : Coding :=
  latinAlphabet (tableOf [
    "\xa0ກຂ�ຄ��ງຈ�ຊ��ຍ������ດຕຖທ�ນບປຜຝພຟ�ມຢຣ�ລ�ວ��ສຫ�ອຮຯະ\u0eb1າຳ\u0eb4\u0eb5\u0eb6\u0eb7\u0eb8",
    "\u0eb9�\u0ebb\u0ebcຽ��ເແໂໃໄ�ໆ�\u0ec8\u0ec9\u0eca\u0ecb\u0ecc\u0ecd��໐໑໒໓໔໕໖໗໘໙��ໜໝ"])

/-! ## Letters and their marks -/

/-- Vietnamese letters and their tones. -/
def vietnameseJoins : Joins := [
    ('\u0300',
      "AÀEÈIÌNǸOÒUÙWẀYỲaàeèiìnǹoòuùwẁyỳ¨῭ÂẦÊỀÔỒÜǛâầêềôồüǜĂẰăằƠỜơờƯỪưừ".toList),
    ('\u0301',
      ("AÁCĆEÉGǴIÍKḰLĹMḾNŃOÓPṔRŔSŚUÚWẂYÝZŹaácćeégǵiíkḱlĺmḿnńoópṕrŕsśuúwẃyýzź¨΅ÂẤÅǺÆǼÇḈÊẾÏḮÔỐÕṌØǾ" ++
      "ÜǗâấåǻæǽçḉêếïḯôốõṍøǿüǘĂẮăắŨṸũṹƠỚơớƯỨưứ").toList),
    ('\u0303',
      "AÃEẼIĨNÑOÕUŨVṼYỸaãeẽiĩnñoõuũvṽyỹÂẪÊỄÔỖâẫêễôỗĂẴăẵƠỠơỡƯỮưữ".toList),
    ('\u0309',
      "AẢEẺIỈOỎUỦYỶaảeẻiỉoỏuủyỷÂẨÊỂÔỔâẩêểôổĂẲăẳƠỞơởƯỬưử".toList),
    ('\u0323',
      ("AẠBḄDḌEẸHḤIỊKḲLḶMṂNṆOỌRṚSṢTṬUỤVṾWẈYỴZẒaạbḅdḍeẹhḥiịkḳlḷmṃnṇoọrṛsṣtṭuụvṿwẉyỵzẓÂẬÊỆÔỘâậêệôộ" ++
      "ĂẶăặƠỢơợƯỰưự").toList)]

/-- Hebrew letters and their points. -/
def hebrewJoins : Joins := [
    ('\u05b4',
      "\u05d9\ufb1d".toList),
    ('\u05b7',
      "\u05d0\ufb2e\u05f2\ufb1f".toList),
    ('\u05b8',
      "\u05d0\ufb2f".toList),
    ('\u05b9',
      "\u05d5\ufb4b".toList),
    ('\u05bc',
      ("\u05d0\ufb30\u05d1\ufb31\u05d2\ufb32\u05d3\ufb33\u05d4\ufb34\u05d5\ufb35\u05d6\ufb36" ++
      "\u05d8\ufb38\u05d9\ufb39\u05da\ufb3a\u05db\ufb3b\u05dc\ufb3c\u05de\ufb3e\u05e0\ufb40" ++
      "\u05e1\ufb41\u05e3\ufb43\u05e4\ufb44\u05e6\ufb46\u05e7\ufb47\u05e8\ufb48\u05e9\ufb49" ++
      "\u05ea\ufb4a").toList),
    ('\u05bf',
      "\u05d1\ufb4c\u05db\ufb4d\u05e4\ufb4e".toList),
    ('\u05c1',
      "\u05e9\ufb2a\ufb49\ufb2c".toList),
    ('\u05c2',
      "\u05e9\ufb2b\ufb49\ufb2d".toList)]

end Storyboard.Markup.Coding
