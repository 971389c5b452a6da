import Stencil.Codec.Chart

/-! Character sets of one byte for a character. A page is a chart of rows of 16 characters, in which
    a replacement character marks a byte that stands for nothing. Most pages agree with ASCII in
    their lower half and only chart the upper one. -/

namespace Stencil.Codec

/-- A character set with the first byte that its rows chart; below, it agrees with ASCII. -/
structure Page where
  name : String
  first : Nat := 128
  rows : Chart

namespace Page

/-- The byte of a character, if the set has it. -/
def code? (p : Page) (c : Char) : Option (List UInt8) :=
  if c.toNat < p.first then some (octets [c.toNat])
  else (p.rows.find? c).map fun (row, cell) => octets [p.first + 16 * row + cell]

/-- EBCDIC for the United States, Canada and others. -/
def cp037 : Page :=
  { name := "cp037"
    first := 0
    rows :=
      ["\x00\x01\x02\x03\x9c\x09\x86\x7f\x97\x8d\x8e\x0b\x0c\x0d\x0e\x0f",
       "\x10\x11\x12\x13\x9d\x85\x08\x87\x18\x19\x92\x8f\x1c\x1d\x1e\x1f",
       "\x80\x81\x82\x83\x84\x0a\x17\x1b\x88\x89\x8a\x8b\x8c\x05\x06\x07",
       "\x90\x91\x16\x93\x94\x95\x96\x04\x98\x99\x9a\x9b\x14\x15\x9e\x1a",
       " \xa0âäàáãåçñ¢.<(+|",
       "&éêëèíîïìß!$*);¬",
       "-/ÂÄÀÁÃÅÇÑ¦,%_>?",
       "øÉÊËÈÍÎÏÌ`:#@'=\x22",
       "Øabcdefghi«»ðýþ±",
       "°jklmnopqrªºæ¸Æ¤",
       "µ~stuvwxyz¡¿ÐÝÞ®",
       "^£¥·©§¶¼½¾[]¯¨´×",
       "\x7bABCDEFGHI\xadôöòóõ",
       "\x7dJKLMNOPQR¹ûüùúÿ",
       "\x5c÷STUVWXYZ²ÔÖÒÓÕ",
       "0123456789³ÛÜÙÚ\x9f"] }

/-- Urdu, Pakistan. -/
def cp1006 : Page :=
  { name := "cp1006"
    rows :=
      ["\x80\x81\x82\x83\x84\x85\x86\x87\x88\x89\x8a\x8b\x8c\x8d\x8e\x8f",
       "\x90\x91\x92\x93\x94\x95\x96\x97\x98\x99\x9a\x9b\x9c\x9d\x9e\x9f",
       "\xa0۰۱۲۳۴۵۶۷۸۹،؛\xad؟ﺁ",
       "ﺍ�ﺎﺏﺑﭖﭘﺓﺕﺗﭦﭨﺙﺛﺝﺟ",
       "ﭺﭼﺡﺣﺥﺧﺩﮄﺫﺭﮌﺯﮊﺱﺳﺵ",
       "ﺷﺹﺻﺽﺿﻁﻅﻉﻊﻋﻌﻍﻎﻏﻐﻑ",
       "ﻓﻕﻗﻙﻛﮒﮔﻝﻟﻠﻡﻣﮞﻥﻧﺅ",
       "ﻭﮦﮨﮩﮪﺀﺉﺊﺋﻱﻲﻳﮰﮮﹼﹽ"] }

/-- EBCDIC for Turkey. -/
def cp1026 : Page :=
  { name := "cp1026"
    first := 0
    rows :=
      ["\x00\x01\x02\x03\x9c\x09\x86\x7f\x97\x8d\x8e\x0b\x0c\x0d\x0e\x0f",
       "\x10\x11\x12\x13\x9d\x85\x08\x87\x18\x19\x92\x8f\x1c\x1d\x1e\x1f",
       "\x80\x81\x82\x83\x84\x0a\x17\x1b\x88\x89\x8a\x8b\x8c\x05\x06\x07",
       "\x90\x91\x16\x93\x94\x95\x96\x04\x98\x99\x9a\x9b\x14\x15\x9e\x1a",
       " \xa0âäàáãå\x7bñÇ.<(+!",
       "&éêëèíîïìßĞİ*);^",
       "-/ÂÄÀÁÃÅ[Ñş,%_>?",
       "øÉÊËÈÍÎÏÌı:ÖŞ'=Ü",
       "Øabcdefghi«»\x7d`¦±",
       "°jklmnopqrªºæ¸Æ¤",
       "µöstuvwxyz¡¿]$@®",
       "¢£¥·©§¶¼½¾¬|¯¨´×",
       "çABCDEFGHI\xadô~òóõ",
       "ğJKLMNOPQR¹û\x5cùúÿ",
       "ü÷STUVWXYZ²Ô#ÒÓÕ",
       "0123456789³Û\x22ÙÚ\x9f"] }

/-- Ukrainian Cyrillic of personal computers. -/
def cp1125 : Page :=
  { name := "cp1125"
    rows :=
      ["АБВГДЕЖЗИЙКЛМНОП",
       "РСТУФХЦЧШЩЪЫЬЭЮЯ",
       "абвгдежзийклмноп",
       "░▒▓│┤╡╢╖╕╣║╗╝╜╛┐",
       "└┴┬├─┼╞╟╚╔╩╦╠═╬╧",
       "╨╤╥╙╘╒╓╫╪┘┌█▄▌▐▀",
       "рстуфхцчшщъыьэюя",
       "ЁёҐґЄєІіЇї·√№¤■\xa0"] }

/-- EBCDIC for the United States with the euro sign. -/
def cp1140 : Page :=
  { name := "cp1140"
    first := 0
    rows :=
      ["\x00\x01\x02\x03\x9c\x09\x86\x7f\x97\x8d\x8e\x0b\x0c\x0d\x0e\x0f",
       "\x10\x11\x12\x13\x9d\x85\x08\x87\x18\x19\x92\x8f\x1c\x1d\x1e\x1f",
       "\x80\x81\x82\x83\x84\x0a\x17\x1b\x88\x89\x8a\x8b\x8c\x05\x06\x07",
       "\x90\x91\x16\x93\x94\x95\x96\x04\x98\x99\x9a\x9b\x14\x15\x9e\x1a",
       " \xa0âäàáãåçñ¢.<(+|",
       "&éêëèíîïìß!$*);¬",
       "-/ÂÄÀÁÃÅÇÑ¦,%_>?",
       "øÉÊËÈÍÎÏÌ`:#@'=\x22",
       "Øabcdefghi«»ðýþ±",
       "°jklmnopqrªºæ¸Æ€",
       "µ~stuvwxyz¡¿ÐÝÞ®",
       "^£¥·©§¶¼½¾[]¯¨´×",
       "\x7bABCDEFGHI\xadôöòóõ",
       "\x7dJKLMNOPQR¹ûüùúÿ",
       "\x5c÷STUVWXYZ²ÔÖÒÓÕ",
       "0123456789³ÛÜÙÚ\x9f"] }

/-- Windows, Central Europe. -/
def cp1250 : Page :=
  { name := "cp1250"
    rows :=
      ["€�‚�„…†‡�‰Š‹ŚŤŽŹ",
       "�‘’“”•–—�™š›śťžź",
       "\xa0ˇ˘Ł¤Ą¦§¨©Ş«¬\xad®Ż",
       "°±˛ł´µ¶·¸ąş»Ľ˝ľż",
       "ŔÁÂĂÄĹĆÇČÉĘËĚÍÎĎ",
       "ĐŃŇÓÔŐÖ×ŘŮÚŰÜÝŢß",
       "ŕáâăäĺćçčéęëěíîď",
       "đńňóôőö÷řůúűüýţ˙"] }

/-- Windows, Cyrillic. -/
def cp1251 : Page :=
  { name := "cp1251"
    rows :=
      ["ЂЃ‚ѓ„…†‡€‰Љ‹ЊЌЋЏ",
       "ђ‘’“”•–—�™љ›њќћџ",
       "\xa0ЎўЈ¤Ґ¦§Ё©Є«¬\xad®Ї",
       "°±Ііґµ¶·ё№є»јЅѕї",
       "АБВГДЕЖЗИЙКЛМНОП",
       "РСТУФХЦЧШЩЪЫЬЭЮЯ",
       "абвгдежзийклмноп",
       "рстуфхцчшщъыьэюя"] }

/-- Windows, Western Europe. -/
def cp1252 : Page :=
  { name := "cp1252"
    rows :=
      ["€�‚ƒ„…†‡ˆ‰Š‹Œ�Ž�",
       "�‘’“”•–—˜™š›œ�žŸ",
       "\xa0¡¢£¤¥¦§¨©ª«¬\xad®¯",
       "°±²³´µ¶·¸¹º»¼½¾¿",
       "ÀÁÂÃÄÅÆÇÈÉÊËÌÍÎÏ",
       "ÐÑÒÓÔÕÖ×ØÙÚÛÜÝÞß",
       "àáâãäåæçèéêëìíîï",
       "ðñòóôõö÷øùúûüýþÿ"] }

/-- Windows, Greek. -/
def cp1253 : Page :=
  { name := "cp1253"
    rows :=
      ["€�‚ƒ„…†‡�‰�‹����",
       "�‘’“”•–—�™�›����",
       "\xa0΅Ά£¤¥¦§¨©�«¬\xad®―",
       "°±²³΄µ¶·ΈΉΊ»Ό½ΎΏ",
       "ΐΑΒΓΔΕΖΗΘΙΚΛΜΝΞΟ",
       "ΠΡ�ΣΤΥΦΧΨΩΪΫάέήί",
       "ΰαβγδεζηθικλμνξο",
       "πρςστυφχψωϊϋόύώ�"] }

/-- Windows, Turkish. -/
def cp1254 : Page :=
  { name := "cp1254"
    rows :=
      ["€�‚ƒ„…†‡ˆ‰Š‹Œ���",
       "�‘’“”•–—˜™š›œ��Ÿ",
       "\xa0¡¢£¤¥¦§¨©ª«¬\xad®¯",
       "°±²³´µ¶·¸¹º»¼½¾¿",
       "ÀÁÂÃÄÅÆÇÈÉÊËÌÍÎÏ",
       "ĞÑÒÓÔÕÖ×ØÙÚÛÜİŞß",
       "àáâãäåæçèéêëìíîï",
       "ğñòóôõö÷øùúûüışÿ"] }

/-- Windows, Hebrew. -/
def cp1255 : Page :=
  { name := "cp1255"
    rows :=
      ["€�‚ƒ„…†‡ˆ‰�‹����",
       "�‘’“”•–—˜™�›����",
       "\xa0¡¢£₪¥¦§¨©×«¬\xad®¯",
       "°±²³´µ¶·¸¹÷»¼½¾¿",
       "\u05b0\u05b1\u05b2\u05b3\u05b4\u05b5\u05b6\u05b7\u05b8\u05b9�\u05bb\u05bc\u05bd־\u05bf",
       "׀\u05c1\u05c2׃װױײ׳״�������",
       "אבגדהוזחטיךכלםמן",
       "נסעףפץצקרשת��\u200e\u200f�"] }

/-- Windows, Arabic. -/
def cp1256 : Page :=
  { name := "cp1256"
    rows :=
      ["€پ‚ƒ„…†‡ˆ‰ٹ‹Œچژڈ",
       "گ‘’“”•–—ک™ڑ›œ\u200c\u200dں",
       "\xa0،¢£¤¥¦§¨©ھ«¬\xad®¯",
       "°±²³´µ¶·¸¹؛»¼½¾؟",
       "ہءآأؤإئابةتثجحخد",
       "ذرزسشصض×طظعغـفقك",
       "àلâمنهوçèéêëىيîï",
       "\u064b\u064c\u064d\u064eô\u064f\u0650÷\u0651ù\u0652ûü\u200e\u200fے"] }

/-- Windows, Baltic. -/
def cp1257 : Page :=
  { name := "cp1257"
    rows :=
      ["€�‚�„…†‡�‰�‹�¨ˇ¸",
       "�‘’“”•–—�™�›�¯˛�",
       "\xa0�¢£¤�¦§Ø©Ŗ«¬\xad®Æ",
       "°±²³´µ¶·ø¹ŗ»¼½¾æ",
       "ĄĮĀĆÄÅĘĒČÉŹĖĢĶĪĻ",
       "ŠŃŅÓŌÕÖ×ŲŁŚŪÜŻŽß",
       "ąįāćäåęēčéźėģķīļ",
       "šńņóōõö÷ųłśūüżž˙"] }

/-- Windows, Vietnamese. -/
def cp1258 : Page :=
  { name := "cp1258"
    rows :=
      ["€�‚ƒ„…†‡ˆ‰�‹Œ���",
       "�‘’“”•–—˜™�›œ��Ÿ",
       "\xa0¡¢£¤¥¦§¨©ª«¬\xad®¯",
       "°±²³´µ¶·¸¹º»¼½¾¿",
       "ÀÁÂĂÄÅÆÇÈÉÊË\u0300ÍÎÏ",
       "ĐÑ\u0309ÓÔƠÖ×ØÙÚÛÜƯ\u0303ß",
       "àáâăäåæçèéêë\u0301íîï",
       "đñ\u0323óôơö÷øùúûüư₫ÿ"] }

/-- EBCDIC for Germany and Austria. -/
def cp273 : Page :=
  { name := "cp273"
    first := 0
    rows :=
      ["\x00\x01\x02\x03\x9c\x09\x86\x7f\x97\x8d\x8e\x0b\x0c\x0d\x0e\x0f",
       "\x10\x11\x12\x13\x9d\x85\x08\x87\x18\x19\x92\x8f\x1c\x1d\x1e\x1f",
       "\x80\x81\x82\x83\x84\x0a\x17\x1b\x88\x89\x8a\x8b\x8c\x05\x06\x07",
       "\x90\x91\x16\x93\x94\x95\x96\x04\x98\x99\x9a\x9b\x14\x15\x9e\x1a",
       " \xa0â\x7bàáãåçñÄ.<(+!",
       "&éêëèíîïì~Ü$*);^",
       "-/Â[ÀÁÃÅÇÑö,%_>?",
       "øÉÊËÈÍÎÏÌ`:#§'=\x22",
       "Øabcdefghi«»ðýþ±",
       "°jklmnopqrªºæ¸Æ¤",
       "µßstuvwxyz¡¿ÐÝÞ®",
       "¢£¥·©@¶¼½¾¬|‾¨´×",
       "äABCDEFGHI\xadô¦òóõ",
       "üJKLMNOPQR¹û\x7dùúÿ",
       "Ö÷STUVWXYZ²Ô\x5cÒÓÕ",
       "0123456789³Û]ÙÚ\x9f"] }

/-- EBCDIC, Hebrew. -/
def cp424 : Page :=
  { name := "cp424"
    first := 0
    rows :=
      ["\x00\x01\x02\x03\x9c\x09\x86\x7f\x97\x8d\x8e\x0b\x0c\x0d\x0e\x0f",
       "\x10\x11\x12\x13\x9d\x85\x08\x87\x18\x19\x92\x8f\x1c\x1d\x1e\x1f",
       "\x80\x81\x82\x83\x84\x0a\x17\x1b\x88\x89\x8a\x8b\x8c\x05\x06\x07",
       "\x90\x91\x16\x93\x94\x95\x96\x04\x98\x99\x9a\x9b\x14\x15\x9e\x1a",
       " אבגדהוזחט¢.<(+|",
       "&יךכלםמןנס!$*);¬",
       "-/עףפץצקרש¦,%_>?",
       "�ת��\xa0���‗`:#@'=\x22",
       "�abcdefghi«»���±",
       "°jklmnopqr���¸�¤",
       "µ~stuvwxyz�����®",
       "^£¥·©§¶¼½¾[]¯¨´×",
       "\x7bABCDEFGHI\xad�����",
       "\x7dJKLMNOPQR¹�����",
       "\x5c÷STUVWXYZ²�����",
       "0123456789³����\x9f"] }

/-- The first personal computers. -/
def cp437 : Page :=
  { name := "cp437"
    rows :=
      ["ÇüéâäàåçêëèïîìÄÅ",
       "ÉæÆôöòûùÿÖÜ¢£¥₧ƒ",
       "áíóúñÑªº¿⌐¬½¼¡«»",
       "░▒▓│┤╡╢╖╕╣║╗╝╜╛┐",
       "└┴┬├─┼╞╟╚╔╩╦╠═╬╧",
       "╨╤╥╙╘╒╓╫╪┘┌█▄▌▐▀",
       "αßΓπΣσµτΦΘΩδ∞φε∩",
       "≡±≥≤⌠⌡÷≈°∙·√ⁿ²■\xa0"] }

/-- EBCDIC, international. -/
def cp500 : Page :=
  { name := "cp500"
    first := 0
    rows :=
      ["\x00\x01\x02\x03\x9c\x09\x86\x7f\x97\x8d\x8e\x0b\x0c\x0d\x0e\x0f",
       "\x10\x11\x12\x13\x9d\x85\x08\x87\x18\x19\x92\x8f\x1c\x1d\x1e\x1f",
       "\x80\x81\x82\x83\x84\x0a\x17\x1b\x88\x89\x8a\x8b\x8c\x05\x06\x07",
       "\x90\x91\x16\x93\x94\x95\x96\x04\x98\x99\x9a\x9b\x14\x15\x9e\x1a",
       " \xa0âäàáãåçñ[.<(+!",
       "&éêëèíîïìß]$*);^",
       "-/ÂÄÀÁÃÅÇÑ¦,%_>?",
       "øÉÊËÈÍÎÏÌ`:#@'=\x22",
       "Øabcdefghi«»ðýþ±",
       "°jklmnopqrªºæ¸Æ¤",
       "µ~stuvwxyz¡¿ÐÝÞ®",
       "¢£¥·©§¶¼½¾¬|¯¨´×",
       "\x7bABCDEFGHI\xadôöòóõ",
       "\x7dJKLMNOPQR¹ûüùúÿ",
       "\x5c÷STUVWXYZ²ÔÖÒÓÕ",
       "0123456789³ÛÜÙÚ\x9f"] }

/-- Personal computers, Arabic. -/
def cp720 : Page :=
  { name := "cp720"
    rows :=
      ["\x80\x81éâ\x84à\x86çêëèïî\x8d\x8e\x8f",
       "\x90\u0651\u0652ô¤ـûùءآأؤ£إئا",
       "بةتثجحخدذرزسشص«»",
       "░▒▓│┤╡╢╖╕╣║╗╝╜╛┐",
       "└┴┬├─┼╞╟╚╔╩╦╠═╬╧",
       "╨╤╥╙╘╒╓╫╪┘┌█▄▌▐▀",
       "ضطظعغفµقكلمنهوىي",
       "≡\u064b\u064c\u064d\u064e\u064f\u0650≈°∙·√ⁿ²■\xa0"] }

/-- Personal computers, Greek. -/
def cp737 : Page :=
  { name := "cp737"
    rows :=
      ["ΑΒΓΔΕΖΗΘΙΚΛΜΝΞΟΠ",
       "ΡΣΤΥΦΧΨΩαβγδεζηθ",
       "ικλμνξοπρσςτυφχψ",
       "░▒▓│┤╡╢╖╕╣║╗╝╜╛┐",
       "└┴┬├─┼╞╟╚╔╩╦╠═╬╧",
       "╨╤╥╙╘╒╓╫╪┘┌█▄▌▐▀",
       "ωάέήϊίόύϋώΆΈΉΊΌΎ",
       "Ώ±≥≤ΪΫ÷≈°∙·√ⁿ²■\xa0"] }

/-- Personal computers, Baltic. -/
def cp775 : Page :=
  { name := "cp775"
    rows :=
      ["ĆüéāäģåćłēŖŗīŹÄÅ",
       "ÉæÆōöĢ¢ŚśÖÜø£Ø×¤",
       "ĀĪóŻżź”¦©®¬½¼Ł«»",
       "░▒▓│┤ĄČĘĖ╣║╗╝ĮŠ┐",
       "└┴┬├─┼ŲŪ╚╔╩╦╠═╬Ž",
       "ąčęėįšųūž┘┌█▄▌▐▀",
       "ÓßŌŃõÕµńĶķĻļņĒŅ’",
       "\xad±“¾¶§÷„°∙·¹³²■\xa0"] }

/-- Personal computers, Western Europe. -/
def cp850 : Page :=
  { name := "cp850"
    rows :=
      ["ÇüéâäàåçêëèïîìÄÅ",
       "ÉæÆôöòûùÿÖÜø£Ø×ƒ",
       "áíóúñÑªº¿®¬½¼¡«»",
       "░▒▓│┤ÁÂÀ©╣║╗╝¢¥┐",
       "└┴┬├─┼ãÃ╚╔╩╦╠═╬¤",
       "ðÐÊËÈıÍÎÏ┘┌█▄¦Ì▀",
       "ÓßÔÒõÕµþÞÚÛÙýÝ¯´",
       "\xad±‗¾¶§÷¸°¨·¹³²■\xa0"] }

/-- Personal computers, Central Europe. -/
def cp852 : Page :=
  { name := "cp852"
    rows :=
      ["ÇüéâäůćçłëŐőîŹÄĆ",
       "ÉĹĺôöĽľŚśÖÜŤťŁ×č",
       "áíóúĄąŽžĘę¬źČş«»",
       "░▒▓│┤ÁÂĚŞ╣║╗╝Żż┐",
       "└┴┬├─┼Ăă╚╔╩╦╠═╬¤",
       "đĐĎËďŇÍÎě┘┌█▄ŢŮ▀",
       "ÓßÔŃńňŠšŔÚŕŰýÝţ´",
       "\xad˝˛ˇ˘§÷¸°¨˙űŘř■\xa0"] }

/-- Personal computers, Cyrillic. -/
def cp855 : Page :=
  { name := "cp855"
    rows :=
      ["ђЂѓЃёЁєЄѕЅіІїЇјЈ",
       "љЉњЊћЋќЌўЎџЏюЮъЪ",
       "аАбБцЦдДеЕфФгГ«»",
       "░▒▓│┤хХиИ╣║╗╝йЙ┐",
       "└┴┬├─┼кК╚╔╩╦╠═╬¤",
       "лЛмМнНоОп┘┌█▄Пя▀",
       "ЯрРсСтТуУжЖвВьЬ№",
       "\xadыЫзЗшШэЭщЩчЧ§■\xa0"] }

/-- Personal computers, Hebrew without vowels. -/
def cp856 : Page :=
  { name := "cp856"
    rows :=
      ["אבגדהוזחטיךכלםמן",
       "נסעףפץצקרשת�£�×�",
       "���������®¬½¼�«»",
       "░▒▓│┤���©╣║╗╝¢¥┐",
       "└┴┬├─┼��╚╔╩╦╠═╬¤",
       "���������┘┌█▄¦�▀",
       "������µ�������¯´",
       "\xad±‗¾¶§÷¸°¨·¹³²■\xa0"] }

/-- Personal computers, Turkish. -/
def cp857 : Page :=
  { name := "cp857"
    rows :=
      ["ÇüéâäàåçêëèïîıÄÅ",
       "ÉæÆôöòûùİÖÜø£ØŞş",
       "áíóúñÑĞğ¿®¬½¼¡«»",
       "░▒▓│┤ÁÂÀ©╣║╗╝¢¥┐",
       "└┴┬├─┼ãÃ╚╔╩╦╠═╬¤",
       "ºªÊËÈ�ÍÎÏ┘┌█▄¦Ì▀",
       "ÓßÔÒõÕµ�×ÚÛÙìÿ¯´",
       "\xad±�¾¶§÷¸°¨·¹³²■\xa0"] }

/-- Personal computers, Western Europe with the euro sign. -/
def cp858 : Page :=
  { name := "cp858"
    rows :=
      ["ÇüéâäàåçêëèïîìÄÅ",
       "ÉæÆôöòûùÿÖÜø£Ø×ƒ",
       "áíóúñÑªº¿®¬½¼¡«»",
       "░▒▓│┤ÁÂÀ©╣║╗╝¢¥┐",
       "└┴┬├─┼ãÃ╚╔╩╦╠═╬¤",
       "ðÐÊËÈ€ÍÎÏ┘┌█▄¦Ì▀",
       "ÓßÔÒõÕµþÞÚÛÙýÝ¯´",
       "\xad±‗¾¶§÷¸°¨·¹³²■\xa0"] }

/-- Personal computers, Portuguese. -/
def cp860 : Page :=
  { name := "cp860"
    rows :=
      ["ÇüéâãàÁçêÊèÍÔìÃÂ",
       "ÉÀÈôõòÚùÌÕÜ¢£Ù₧Ó",
       "áíóúñÑªº¿Ò¬½¼¡«»",
       "░▒▓│┤╡╢╖╕╣║╗╝╜╛┐",
       "└┴┬├─┼╞╟╚╔╩╦╠═╬╧",
       "╨╤╥╙╘╒╓╫╪┘┌█▄▌▐▀",
       "αßΓπΣσµτΦΘΩδ∞φε∩",
       "≡±≥≤⌠⌡÷≈°∙·√ⁿ²■\xa0"] }

/-- Personal computers, Icelandic. -/
def cp861 : Page :=
  { name := "cp861"
    rows :=
      ["ÇüéâäàåçêëèÐðÞÄÅ",
       "ÉæÆôöþûÝýÖÜø£Ø₧ƒ",
       "áíóúÁÍÓÚ¿⌐¬½¼¡«»",
       "░▒▓│┤╡╢╖╕╣║╗╝╜╛┐",
       "└┴┬├─┼╞╟╚╔╩╦╠═╬╧",
       "╨╤╥╙╘╒╓╫╪┘┌█▄▌▐▀",
       "αßΓπΣσµτΦΘΩδ∞φε∩",
       "≡±≥≤⌠⌡÷≈°∙·√ⁿ²■\xa0"] }

/-- Personal computers, Hebrew. -/
def cp862 : Page :=
  { name := "cp862"
    rows :=
      ["אבגדהוזחטיךכלםמן",
       "נסעףפץצקרשת¢£¥₧ƒ",
       "áíóúñÑªº¿⌐¬½¼¡«»",
       "░▒▓│┤╡╢╖╕╣║╗╝╜╛┐",
       "└┴┬├─┼╞╟╚╔╩╦╠═╬╧",
       "╨╤╥╙╘╒╓╫╪┘┌█▄▌▐▀",
       "αßΓπΣσµτΦΘΩδ∞φε∩",
       "≡±≥≤⌠⌡÷≈°∙·√ⁿ²■\xa0"] }

/-- Personal computers, French of Canada. -/
def cp863 : Page :=
  { name := "cp863"
    rows :=
      ["ÇüéâÂà¶çêëèïî‗À§",
       "ÉÈÊôËÏûù¤ÔÜ¢£ÙÛƒ",
       "¦´óú¨¸³¯Î⌐¬½¼¾«»",
       "░▒▓│┤╡╢╖╕╣║╗╝╜╛┐",
       "└┴┬├─┼╞╟╚╔╩╦╠═╬╧",
       "╨╤╥╙╘╒╓╫╪┘┌█▄▌▐▀",
       "αßΓπΣσµτΦΘΩδ∞φε∩",
       "≡±≥≤⌠⌡÷≈°∙·√ⁿ²■\xa0"] }

/-- Personal computers, Arabic in presentation forms. -/
def cp864 : Page :=
  { name := "cp864"
    first := 0
    rows :=
      ["\x00\x01\x02\x03\x04\x05\x06\x07\x08\x09\x0a\x0b\x0c\x0d\x0e\x0f",
       "\x10\x11\x12\x13\x14\x15\x16\x17\x18\x19\x1a\x1b\x1c\x1d\x1e\x1f",
       " !\x22#$٪&'()*+,-./",
       "0123456789:;<=>?",
       "@ABCDEFGHIJKLMNO",
       "PQRSTUVWXYZ[\x5c]^_",
       "`abcdefghijklmno",
       "pqrstuvwxyz\x7b|\x7d~\x7f",
       "°·∙√▒─│┼┤┬├┴┐┌└┘",
       "β∞φ±½¼≈«»ﻷﻸ��ﻻﻼ�",
       "\xa0\xadﺂ£¤ﺄ��ﺎﺏﺕﺙ،ﺝﺡﺥ",
       "٠١٢٣٤٥٦٧٨٩ﻑ؛ﺱﺵﺹ؟",
       "¢ﺀﺁﺃﺅﻊﺋﺍﺑﺓﺗﺛﺟﺣﺧﺩ",
       "ﺫﺭﺯﺳﺷﺻﺿﻁﻅﻋﻏ¦¬÷×ﻉ",
       "ـﻓﻗﻛﻟﻣﻧﻫﻭﻯﻳﺽﻌﻎﻍﻡ",
       "ﹽ\u0651ﻥﻩﻬﻰﻲﻐﻕﻵﻶﻝﻙﻱ■�"] }

/-- Personal computers, Nordic. -/
def cp865 : Page :=
  { name := "cp865"
    rows :=
      ["ÇüéâäàåçêëèïîìÄÅ",
       "ÉæÆôöòûùÿÖÜø£Ø₧ƒ",
       "áíóúñÑªº¿⌐¬½¼¡«¤",
       "░▒▓│┤╡╢╖╕╣║╗╝╜╛┐",
       "└┴┬├─┼╞╟╚╔╩╦╠═╬╧",
       "╨╤╥╙╘╒╓╫╪┘┌█▄▌▐▀",
       "αßΓπΣσµτΦΘΩδ∞φε∩",
       "≡±≥≤⌠⌡÷≈°∙·√ⁿ²■\xa0"] }

/-- Personal computers, Russian. -/
def cp866 : Page :=
  { name := "cp866"
    rows :=
      ["АБВГДЕЖЗИЙКЛМНОП",
       "РСТУФХЦЧШЩЪЫЬЭЮЯ",
       "абвгдежзийклмноп",
       "░▒▓│┤╡╢╖╕╣║╗╝╜╛┐",
       "└┴┬├─┼╞╟╚╔╩╦╠═╬╧",
       "╨╤╥╙╘╒╓╫╪┘┌█▄▌▐▀",
       "рстуфхцчшщъыьэюя",
       "ЁёЄєЇїЎў°∙·√№¤■\xa0"] }

/-- Personal computers, Greek with accents. -/
def cp869 : Page :=
  { name := "cp869"
    rows :=
      ["������Ά�·¬¦‘’Έ―Ή",
       "ΊΪΌ��ΎΫ©Ώ²³ά£έήί",
       "ϊΐόύΑΒΓΔΕΖΗ½ΘΙ«»",
       "░▒▓│┤ΚΛΜΝ╣║╗╝ΞΟ┐",
       "└┴┬├─┼ΠΡ╚╔╩╦╠═╬Σ",
       "ΤΥΦΧΨΩαβγ┘┌█▄δε▀",
       "ζηθικλμνξοπρσςτ΄",
       "\xad±υφχ§ψ΅°¨ωϋΰώ■\xa0"] }

/-- Windows, Thai. -/
def cp874 : Page :=
  { name := "cp874"
    rows :=
      ["€����…����������",
       "�‘’“”•–—��������",
       "\xa0กขฃคฅฆงจฉชซฌญฎฏ",
       "ฐฑฒณดตถทธนบปผฝพฟ",
       "ภมยรฤลฦวศษสหฬอฮฯ",
       "ะ\u0e31าำ\u0e34\u0e35\u0e36\u0e37\u0e38\u0e39\u0e3a����฿",
       "เแโใไๅๆ\u0e47\u0e48\u0e49\u0e4a\u0e4b\u0e4c\u0e4d\u0e4e๏",
       "๐๑๒๓๔๕๖๗๘๙๚๛����"] }

/-- EBCDIC, Greek. -/
def cp875 : Page :=
  { name := "cp875"
    first := 0
    rows :=
      ["\x00\x01\x02\x03\x9c\x09\x86\x7f\x97\x8d\x8e\x0b\x0c\x0d\x0e\x0f",
       "\x10\x11\x12\x13\x9d\x85\x08\x87\x18\x19\x92\x8f\x1c\x1d\x1e\x1f",
       "\x80\x81\x82\x83\x84\x0a\x17\x1b\x88\x89\x8a\x8b\x8c\x05\x06\x07",
       "\x90\x91\x16\x93\x94\x95\x96\x04\x98\x99\x9a\x9b\x14\x15\x9e�",
       " ΑΒΓΔΕΖΗΘΙ[.<(+!",
       "&ΚΛΜΝΞΟΠΡΣ]$*);^",
       "-/ΤΥΦΧΨΩΪΫ|,%_>?",
       "¨ΆΈΉ\xa0ΊΌΎΏ`:#@'=\x22",
       "΅abcdefghiαβγδεζ",
       "°jklmnopqrηθικλμ",
       "´~stuvwxyzνξοπρσ",
       "£άέήϊίόύϋώςτυφχψ",
       "\x7bABCDEFGHI\xadωΐΰ‘―",
       "\x7dJKLMNOPQR±½�·’¦",
       "\x5c�STUVWXYZ²§��«¬",
       "0123456789³©�\x1a»\x9f"] }

/-- Printers and terminals, Western Europe. -/
def hpRoman8 : Page :=
  { name := "hp_roman8"
    rows :=
      ["\x80\x81\x82\x83\x84\x85\x86\x87\x88\x89\x8a\x8b\x8c\x8d\x8e\x8f",
       "\x90\x91\x92\x93\x94\x95\x96\x97\x98\x99\x9a\x9b\x9c\x9d\x9e\x9f",
       "\xa0ÀÂÈÊËÎÏ´ˋˆ¨˜ÙÛ₤",
       "¯Ýý°ÇçÑñ¡¿¤£¥§ƒ¢",
       "âêôûáéóúàèòùäëöü",
       "ÅîØÆåíøæÄìÖÜÉïßÔ",
       "ÁÃãÐðÍÌÓÒÕõŠšÚŸÿ",
       "Þþ·µ¶¾—¼½ªº«■»±�"] }

/-- Nordic. -/
def isoPart10 : Page :=
  { name := "iso8859_10"
    rows :=
      ["\x80\x81\x82\x83\x84\x85\x86\x87\x88\x89\x8a\x8b\x8c\x8d\x8e\x8f",
       "\x90\x91\x92\x93\x94\x95\x96\x97\x98\x99\x9a\x9b\x9c\x9d\x9e\x9f",
       "\xa0ĄĒĢĪĨĶ§ĻĐŠŦŽ\xadŪŊ",
       "°ąēģīĩķ·ļđšŧž―ūŋ",
       "ĀÁÂÃÄÅÆĮČÉĘËĖÍÎÏ",
       "ÐŅŌÓÔÕÖŨØŲÚÛÜÝÞß",
       "āáâãäåæįčéęëėíîï",
       "ðņōóôõöũøųúûüýþĸ"] }

/-- Thai. -/
def isoPart11 : Page :=
  { name := "iso8859_11"
    rows :=
      ["\x80\x81\x82\x83\x84\x85\x86\x87\x88\x89\x8a\x8b\x8c\x8d\x8e\x8f",
       "\x90\x91\x92\x93\x94\x95\x96\x97\x98\x99\x9a\x9b\x9c\x9d\x9e\x9f",
       "\xa0กขฃคฅฆงจฉชซฌญฎฏ",
       "ฐฑฒณดตถทธนบปผฝพฟ",
       "ภมยรฤลฦวศษสหฬอฮฯ",
       "ะ\u0e31าำ\u0e34\u0e35\u0e36\u0e37\u0e38\u0e39\u0e3a����฿",
       "เแโใไๅๆ\u0e47\u0e48\u0e49\u0e4a\u0e4b\u0e4c\u0e4d\u0e4e๏",
       "๐๑๒๓๔๕๖๗๘๙๚๛����"] }

/-- Baltic. -/
def isoPart13 : Page :=
  { name := "iso8859_13"
    rows :=
      ["\x80\x81\x82\x83\x84\x85\x86\x87\x88\x89\x8a\x8b\x8c\x8d\x8e\x8f",
       "\x90\x91\x92\x93\x94\x95\x96\x97\x98\x99\x9a\x9b\x9c\x9d\x9e\x9f",
       "\xa0”¢£¤„¦§Ø©Ŗ«¬\xad®Æ",
       "°±²³“µ¶·ø¹ŗ»¼½¾æ",
       "ĄĮĀĆÄÅĘĒČÉŹĖĢĶĪĻ",
       "ŠŃŅÓŌÕÖ×ŲŁŚŪÜŻŽß",
       "ąįāćäåęēčéźėģķīļ",
       "šńņóōõö÷ųłśūüżž’"] }

/-- Celtic. -/
def isoPart14 : Page :=
  { name := "iso8859_14"
    rows :=
      ["\x80\x81\x82\x83\x84\x85\x86\x87\x88\x89\x8a\x8b\x8c\x8d\x8e\x8f",
       "\x90\x91\x92\x93\x94\x95\x96\x97\x98\x99\x9a\x9b\x9c\x9d\x9e\x9f",
       "\xa0Ḃḃ£ĊċḊ§Ẁ©ẂḋỲ\xad®Ÿ",
       "ḞḟĠġṀṁ¶ṖẁṗẃṠỳẄẅṡ",
       "ÀÁÂÃÄÅÆÇÈÉÊËÌÍÎÏ",
       "ŴÑÒÓÔÕÖṪØÙÚÛÜÝŶß",
       "àáâãäåæçèéêëìíîï",
       "ŵñòóôõöṫøùúûüýŷÿ"] }

/-- Western Europe with the euro sign. -/
def isoPart15 : Page :=
  { name := "iso8859_15"
    rows :=
      ["\x80\x81\x82\x83\x84\x85\x86\x87\x88\x89\x8a\x8b\x8c\x8d\x8e\x8f",
       "\x90\x91\x92\x93\x94\x95\x96\x97\x98\x99\x9a\x9b\x9c\x9d\x9e\x9f",
       "\xa0¡¢£€¥Š§š©ª«¬\xad®¯",
       "°±²³Žµ¶·ž¹º»ŒœŸ¿",
       "ÀÁÂÃÄÅÆÇÈÉÊËÌÍÎÏ",
       "ÐÑÒÓÔÕÖ×ØÙÚÛÜÝÞß",
       "àáâãäåæçèéêëìíîï",
       "ðñòóôõö÷øùúûüýþÿ"] }

/-- South-eastern Europe. -/
def isoPart16 : Page :=
  { name := "iso8859_16"
    rows :=
      ["\x80\x81\x82\x83\x84\x85\x86\x87\x88\x89\x8a\x8b\x8c\x8d\x8e\x8f",
       "\x90\x91\x92\x93\x94\x95\x96\x97\x98\x99\x9a\x9b\x9c\x9d\x9e\x9f",
       "\xa0ĄąŁ€„Š§š©Ș«Ź\xadźŻ",
       "°±ČłŽ”¶·žčș»ŒœŸż",
       "ÀÁÂĂÄĆÆÇÈÉÊËÌÍÎÏ",
       "ĐŃÒÓÔŐÖŚŰÙÚÛÜĘȚß",
       "àáâăäćæçèéêëìíîï",
       "đńòóôőöśűùúûüęțÿ"] }

/-- Central Europe. -/
def isoPart2 : Page :=
  { name := "iso8859_2"
    rows :=
      ["\x80\x81\x82\x83\x84\x85\x86\x87\x88\x89\x8a\x8b\x8c\x8d\x8e\x8f",
       "\x90\x91\x92\x93\x94\x95\x96\x97\x98\x99\x9a\x9b\x9c\x9d\x9e\x9f",
       "\xa0Ą˘Ł¤ĽŚ§¨ŠŞŤŹ\xadŽŻ",
       "°ą˛ł´ľśˇ¸šşťź˝žż",
       "ŔÁÂĂÄĹĆÇČÉĘËĚÍÎĎ",
       "ĐŃŇÓÔŐÖ×ŘŮÚŰÜÝŢß",
       "ŕáâăäĺćçčéęëěíîď",
       "đńňóôőö÷řůúűüýţ˙"] }

/-- Southern Europe. -/
def isoPart3 : Page :=
  { name := "iso8859_3"
    rows :=
      ["\x80\x81\x82\x83\x84\x85\x86\x87\x88\x89\x8a\x8b\x8c\x8d\x8e\x8f",
       "\x90\x91\x92\x93\x94\x95\x96\x97\x98\x99\x9a\x9b\x9c\x9d\x9e\x9f",
       "\xa0Ħ˘£¤�Ĥ§¨İŞĞĴ\xad�Ż",
       "°ħ²³´µĥ·¸ışğĵ½�ż",
       "ÀÁÂ�ÄĊĈÇÈÉÊËÌÍÎÏ",
       "�ÑÒÓÔĠÖ×ĜÙÚÛÜŬŜß",
       "àáâ�äċĉçèéêëìíîï",
       "�ñòóôġö÷ĝùúûüŭŝ˙"] }

/-- Northern Europe. -/
def isoPart4 : Page :=
  { name := "iso8859_4"
    rows :=
      ["\x80\x81\x82\x83\x84\x85\x86\x87\x88\x89\x8a\x8b\x8c\x8d\x8e\x8f",
       "\x90\x91\x92\x93\x94\x95\x96\x97\x98\x99\x9a\x9b\x9c\x9d\x9e\x9f",
       "\xa0ĄĸŖ¤ĨĻ§¨ŠĒĢŦ\xadŽ¯",
       "°ą˛ŗ´ĩļˇ¸šēģŧŊžŋ",
       "ĀÁÂÃÄÅÆĮČÉĘËĖÍÎĪ",
       "ĐŅŌĶÔÕÖ×ØŲÚÛÜŨŪß",
       "āáâãäåæįčéęëėíîī",
       "đņōķôõö÷øųúûüũū˙"] }

/-- Cyrillic. -/
def isoPart5 : Page :=
  { name := "iso8859_5"
    rows :=
      ["\x80\x81\x82\x83\x84\x85\x86\x87\x88\x89\x8a\x8b\x8c\x8d\x8e\x8f",
       "\x90\x91\x92\x93\x94\x95\x96\x97\x98\x99\x9a\x9b\x9c\x9d\x9e\x9f",
       "\xa0ЁЂЃЄЅІЇЈЉЊЋЌ\xadЎЏ",
       "АБВГДЕЖЗИЙКЛМНОП",
       "РСТУФХЦЧШЩЪЫЬЭЮЯ",
       "абвгдежзийклмноп",
       "рстуфхцчшщъыьэюя",
       "№ёђѓєѕіїјљњћќ§ўџ"] }

/-- Arabic. -/
def isoPart6 : Page :=
  { name := "iso8859_6"
    rows :=
      ["\x80\x81\x82\x83\x84\x85\x86\x87\x88\x89\x8a\x8b\x8c\x8d\x8e\x8f",
       "\x90\x91\x92\x93\x94\x95\x96\x97\x98\x99\x9a\x9b\x9c\x9d\x9e\x9f",
       "\xa0���¤�������،\xad��",
       "�����������؛���؟",
       "�ءآأؤإئابةتثجحخد",
       "ذرزسشصضطظعغ�����",
       "ـفقكلمنهوىي\u064b\u064c\u064d\u064e\u064f",
       "\u0650\u0651\u0652�������������"] }

/-- Greek. -/
def isoPart7 : Page :=
  { name := "iso8859_7"
    rows :=
      ["\x80\x81\x82\x83\x84\x85\x86\x87\x88\x89\x8a\x8b\x8c\x8d\x8e\x8f",
       "\x90\x91\x92\x93\x94\x95\x96\x97\x98\x99\x9a\x9b\x9c\x9d\x9e\x9f",
       "\xa0‘’£€₯¦§¨©ͺ«¬\xad�―",
       "°±²³΄΅Ά·ΈΉΊ»Ό½ΎΏ",
       "ΐΑΒΓΔΕΖΗΘΙΚΛΜΝΞΟ",
       "ΠΡ�ΣΤΥΦΧΨΩΪΫάέήί",
       "ΰαβγδεζηθικλμνξο",
       "πρςστυφχψωϊϋόύώ�"] }

/-- Hebrew. -/
def isoPart8 : Page :=
  { name := "iso8859_8"
    rows :=
      ["\x80\x81\x82\x83\x84\x85\x86\x87\x88\x89\x8a\x8b\x8c\x8d\x8e\x8f",
       "\x90\x91\x92\x93\x94\x95\x96\x97\x98\x99\x9a\x9b\x9c\x9d\x9e\x9f",
       "\xa0�¢£¤¥¦§¨©×«¬\xad®¯",
       "°±²³´µ¶·¸¹÷»¼½¾�",
       "����������������",
       "���������������‗",
       "אבגדהוזחטיךכלםמן",
       "נסעףפץצקרשת��\u200e\u200f�"] }

/-- Turkish. -/
def isoPart9 : Page :=
  { name := "iso8859_9"
    rows :=
      ["\x80\x81\x82\x83\x84\x85\x86\x87\x88\x89\x8a\x8b\x8c\x8d\x8e\x8f",
       "\x90\x91\x92\x93\x94\x95\x96\x97\x98\x99\x9a\x9b\x9c\x9d\x9e\x9f",
       "\xa0¡¢£¤¥¦§¨©ª«¬\xad®¯",
       "°±²³´µ¶·¸¹º»¼½¾¿",
       "ÀÁÂÃÄÅÆÇÈÉÊËÌÍÎÏ",
       "ĞÑÒÓÔÕÖ×ØÙÚÛÜİŞß",
       "àáâãäåæçèéêëìíîï",
       "ğñòóôõö÷øùúûüışÿ"] }

/-- Russian of mail and news. -/
def koi8R : Page :=
  { name := "koi8_r"
    rows :=
      ["─│┌┐└┘├┤┬┴┼▀▄█▌▐",
       "░▒▓⌠■∙√≈≤≥\xa0⌡°²·÷",
       "═║╒ё╓╔╕╖╗╘╙╚╛╜╝╞",
       "╟╠╡Ё╢╣╤╥╦╧╨╩╪╫╬©",
       "юабцдефгхийклмно",
       "пярстужвьызшэщчъ",
       "ЮАБЦДЕФГХИЙКЛМНО",
       "ПЯРСТУЖВЬЫЗШЭЩЧЪ"] }

/-- Tajik. -/
def koi8T : Page :=
  { name := "koi8_t"
    rows :=
      ["қғ‚Ғ„…†‡�‰ҳ‹ҲҷҶ�",
       "Қ‘’“”•–—�™�›����",
       "�ӯӮё¤ӣ¦§���«¬\xad®�",
       "°±²Ё�Ӣ¶·�№�»���©",
       "юабцдефгхийклмно",
       "пярстужвьызшэщчъ",
       "ЮАБЦДЕФГХИЙКЛМНО",
       "ПЯРСТУЖВЬЫЗШЭЩЧЪ"] }

/-- Ukrainian of mail and news. -/
def koi8U : Page :=
  { name := "koi8_u"
    rows :=
      ["─│┌┐└┘├┤┬┴┼▀▄█▌▐",
       "░▒▓⌠■∙√≈≤≥\xa0⌡°²·÷",
       "═║╒ёє╔ії╗╘╙╚╛ґ╝╞",
       "╟╠╡ЁЄ╣ІЇ╦╧╨╩╪Ґ╬©",
       "юабцдефгхийклмно",
       "пярстужвьызшэщчъ",
       "ЮАБЦДЕФГХИЙКЛМНО",
       "ПЯРСТУЖВЬЫЗШЭЩЧЪ"] }

/-- Kazakh. -/
def kz1048 : Page :=
  { name := "kz1048"
    rows :=
      ["ЂЃ‚ѓ„…†‡€‰Љ‹ЊҚҺЏ",
       "ђ‘’“”•–—�™љ›њқһџ",
       "\xa0ҰұӘ¤Ө¦§Ё©Ғ«¬\xad®Ү",
       "°±Ііөµ¶·ё№ғ»әҢңү",
       "АБВГДЕЖЗИЙКЛМНОП",
       "РСТУФХЦЧШЩЪЫЬЭЮЯ",
       "абвгдежзийклмноп",
       "рстуфхцчшщъыьэюя"] }

/-- Macintosh, Arabic. -/
def macArabic : Page :=
  { name := "mac_arabic"
    first := 0
    rows :=
      ["\x00\x01\x02\x03\x04\x05\x06\x07\x08\x09\x0a\x0b\x0c\x0d\x0e\x0f",
       "\x10\x11\x12\x13\x14\x15\x16\x17\x18\x19\x1a\x1b\x1c\x1d\x1e\x1f",
       "�����%������,���",
       "0123456789�;���?",
       "@ABCDEFGHIJKLMNO",
       "PQRSTUVWXYZ�����",
       "`abcdefghijklmno",
       "pqrstuvwxyz���~\x7f",
       "Ä\xa0ÇÉÑÖÜáàâäں«çéè",
       "êëí…îïñó»ôö÷úùûü",
       " !\x22#$٪&'()*+،-./",
       "٠١٢٣٤٥٦٧٨٩:؛<=>؟",
       "❊ءآأؤإئابةتثجحخد",
       "ذرزسشصضطظعغ[\x5c]^_",
       "ـفقكلمنهوىي\u064b\u064c\u064d\u064e\u064f",
       "\u0650\u0651\u0652پٹچەڤگڈڑ\x7b|\x7dژے"] }

/-- Macintosh, Croatian. -/
def macCroatian : Page :=
  { name := "mac_croatian"
    rows :=
      ["ÄÅÇÉÑÖÜáàâäãåçéè",
       "êëíìîïñóòôöõúùûü",
       "†°¢£§•¶ß®Š™´¨≠ŽØ",
       "∞±≤≥∆µ∂∑∏š∫ªºΩžø",
       "¿¡¬√ƒ≈Ć«Č…\xa0ÀÃÕŒœ",
       "Đ—“”‘’÷◊\uf8ff©⁄€‹›Æ»",
       "–·‚„‰ÂćÁčÈÍÎÏÌÓÔ",
       "đÒÚÛÙıˆ˜¯πË˚¸Êæˇ"] }

/-- Macintosh, Cyrillic. -/
def macCyrillic : Page :=
  { name := "mac_cyrillic"
    rows :=
      ["АБВГДЕЖЗИЙКЛМНОП",
       "РСТУФХЦЧШЩЪЫЬЭЮЯ",
       "†°Ґ£§•¶І®©™Ђђ≠Ѓѓ",
       "∞±≤≥іµґЈЄєЇїЉљЊњ",
       "јЅ¬√ƒ≈∆«»…\xa0ЋћЌќѕ",
       "–—“”‘’÷„ЎўЏџ№Ёёя",
       "абвгдежзийклмноп",
       "рстуфхцчшщъыьэю€"] }

/-- Macintosh, Persian. -/
def macFarsi : Page :=
  { name := "mac_farsi"
    first := 0
    rows :=
      ["\x00\x01\x02\x03\x04\x05\x06\x07\x08\x09\x0a\x0b\x0c\x0d\x0e\x0f",
       "\x10\x11\x12\x13\x14\x15\x16\x17\x18\x19\x1a\x1b\x1c\x1d\x1e\x1f",
       "�����%������,���",
       "0123456789�;���?",
       "@ABCDEFGHIJKLMNO",
       "PQRSTUVWXYZ�����",
       "`abcdefghijklmno",
       "pqrstuvwxyz���~\x7f",
       "Ä\xa0ÇÉÑÖÜáàâäں«çéè",
       "êëí…îïñó»ôö÷úùûü",
       " !\x22#$٪&'()*+،-./",
       "۰۱۲۳۴۵۶۷۸۹:؛<=>؟",
       "❊ءآأؤإئابةتثجحخد",
       "ذرزسشصضطظعغ[\x5c]^_",
       "ـفقكلمنهوىي\u064b\u064c\u064d\u064e\u064f",
       "\u0650\u0651\u0652پٹچەڤگڈڑ\x7b|\x7dژے"] }

/-- Macintosh, Greek. -/
def macGreek : Page :=
  { name := "mac_greek"
    rows :=
      ["Ä¹²É³ÖÜ΅àâä΄¨çéè",
       "êë£™îï•½‰ôö¦€ùûü",
       "†ΓΔΘΛΞΠß®©ΣΪ§≠°·",
       "Α±≤≥¥ΒΕΖΗΙΚΜΦΫΨΩ",
       "άΝ¬ΟΡ≈Τ«»…\xa0ΥΧΆΈœ",
       "–―“”‘’÷ΉΊΌΎέήίόΏ",
       "ύαβψδεφγηιξκλμνο",
       "πώρστθωςχυζϊϋΐΰ\xad"] }

/-- Macintosh, Icelandic. -/
def macIceland : Page :=
  { name := "mac_iceland"
    rows :=
      ["ÄÅÇÉÑÖÜáàâäãåçéè",
       "êëíìîïñóòôöõúùûü",
       "Ý°¢£§•¶ß®©™´¨≠ÆØ",
       "∞±≤≥¥µ∂∑∏π∫ªºΩæø",
       "¿¡¬√ƒ≈∆«»…\xa0ÀÃÕŒœ",
       "–—“”‘’÷◊ÿŸ⁄€ÐðÞþ",
       "ý·‚„‰ÂÊÁËÈÍÎÏÌÓÔ",
       "\uf8ffÒÚÛÙıˆ˜¯˘˙˚¸˝˛ˇ"] }

/-- Macintosh, Central Europe. -/
def macLatin2 : Page :=
  { name := "mac_latin2"
    rows :=
      ["ÄĀāÉĄÖÜáąČäčĆćéŹ",
       "źĎíďĒēĖóėôöõúĚěü",
       "†°Ę£§•¶ß®©™ę¨≠ģĮ",
       "įĪ≤≥īĶ∂∑łĻļĽľĹĺŅ",
       "ņŃ¬√ńŇ∆«»…\xa0ňŐÕőŌ",
       "–—“”‘’÷◊ōŔŕŘ‹›řŖ",
       "ŗŠ‚„šŚśÁŤťÍŽžŪÓÔ",
       "ūŮÚůŰűŲųÝýķŻŁżĢˇ"] }

/-- Macintosh, Western Europe. -/
def macRoman : Page :=
  { name := "mac_roman"
    rows :=
      ["ÄÅÇÉÑÖÜáàâäãåçéè",
       "êëíìîïñóòôöõúùûü",
       "†°¢£§•¶ß®©™´¨≠ÆØ",
       "∞±≤≥¥µ∂∑∏π∫ªºΩæø",
       "¿¡¬√ƒ≈∆«»…\xa0ÀÃÕŒœ",
       "–—“”‘’÷◊ÿŸ⁄€‹›ﬁﬂ",
       "‡·‚„‰ÂÊÁËÈÍÎÏÌÓÔ",
       "\uf8ffÒÚÛÙıˆ˜¯˘˙˚¸˝˛ˇ"] }

/-- Macintosh, Romanian. -/
def macRomanian : Page :=
  { name := "mac_romanian"
    rows :=
      ["ÄÅÇÉÑÖÜáàâäãåçéè",
       "êëíìîïñóòôöõúùûü",
       "†°¢£§•¶ß®©™´¨≠ĂȘ",
       "∞±≤≥¥µ∂∑∏π∫ªºΩăș",
       "¿¡¬√ƒ≈∆«»…\xa0ÀÃÕŒœ",
       "–—“”‘’÷◊ÿŸ⁄€‹›Țț",
       "‡·‚„‰ÂÊÁËÈÍÎÏÌÓÔ",
       "\uf8ffÒÚÛÙıˆ˜¯˘˙˚¸˝˛ˇ"] }

/-- Macintosh, Turkish. -/
def macTurkish : Page :=
  { name := "mac_turkish"
    rows :=
      ["ÄÅÇÉÑÖÜáàâäãåçéè",
       "êëíìîïñóòôöõúùûü",
       "†°¢£§•¶ß®©™´¨≠ÆØ",
       "∞±≤≥¥µ∂∑∏π∫ªºΩæø",
       "¿¡¬√ƒ≈∆«»…\xa0ÀÃÕŒœ",
       "–—“”‘’÷◊ÿŸĞğİıŞş",
       "‡·‚„‰ÂÊÁËÈÍÎÏÌÓÔ",
       "\uf8ffÒÚÛÙ\uf8a0ˆ˜¯˘˙˚¸˝˛ˇ"] }

/-- Handheld computers, Western Europe. -/
def palmos : Page :=
  { name := "palmos"
    rows :=
      ["€\x81‚ƒ„…†‡ˆ‰Š‹Œ♦♣♥",
       "♠‘’“”•–—˜™š\x9bœ\x9d\x9eŸ",
       "\xa0¡¢£¤¥¦§¨©ª«¬\xad®¯",
       "°±²³´µ¶·¸¹º»¼½¾¿",
       "ÀÁÂÃÄÅÆÇÈÉÊËÌÍÎÏ",
       "ÐÑÒÓÔÕÖ×ØÙÚÛÜÝÞß",
       "àáâãäåæçèéêëìíîï",
       "ðñòóôõö÷øùúûüýþÿ"] }

/-- Asian Cyrillic. -/
def ptcp154 : Page :=
  { name := "ptcp154"
    rows :=
      ["ҖҒӮғ„…ҶҮҲүҠӢҢҚҺҸ",
       "җ‘’“”•–—ҳҷҡӣңқһҹ",
       "\xa0ЎўЈӨҘҰ§Ё©Ә«¬ӯ®Ҝ",
       "°ұІіҙө¶·ё№ә»јҪҫҝ",
       "АБВГДЕЖЗИЙКЛМНОП",
       "РСТУФХЦЧШЩЪЫЬЭЮЯ",
       "абвгдежзийклмноп",
       "рстуфхцчшщъыьэюя"] }

/-- Thai, the national standard. -/
def tis620 : Page :=
  { name := "tis_620"
    rows :=
      ["\x80\x81\x82\x83\x84\x85\x86\x87\x88\x89\x8a\x8b\x8c\x8d\x8e\x8f",
       "\x90\x91\x92\x93\x94\x95\x96\x97\x98\x99\x9a\x9b\x9c\x9d\x9e\x9f",
       "�กขฃคฅฆงจฉชซฌญฎฏ",
       "ฐฑฒณดตถทธนบปผฝพฟ",
       "ภมยรฤลฦวศษสหฬอฮฯ",
       "ะ\u0e31าำ\u0e34\u0e35\u0e36\u0e37\u0e38\u0e39\u0e3a����฿",
       "เแโใไๅๆ\u0e47\u0e48\u0e49\u0e4a\u0e4b\u0e4c\u0e4d\u0e4e๏",
       "๐๑๒๓๔๕๖๗๘๙๚๛����"] }

/-- The character sets of one byte. -/
def all : List Page :=
  [cp037, cp1006, cp1026, cp1125, cp1140, cp1250, cp1251, cp1252, cp1253, cp1254, cp1255, cp1256,
   cp1257, cp1258, cp273, cp424, cp437, cp500, cp720, cp737, cp775, cp850, cp852, cp855, cp856,
   cp857, cp858, cp860, cp861, cp862, cp863, cp864, cp865, cp866, cp869, cp874, cp875, hpRoman8,
   isoPart10, isoPart11, isoPart13, isoPart14, isoPart15, isoPart16, isoPart2, isoPart3,
   isoPart4, isoPart5, isoPart6, isoPart7, isoPart8, isoPart9, koi8R, koi8T, koi8U, kz1048,
   macArabic, macCroatian, macCyrillic, macFarsi, macGreek, macIceland, macLatin2, macRoman,
   macRomanian, macTurkish, palmos, ptcp154, tis620]

end Page

end Stencil.Codec
