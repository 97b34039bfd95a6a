import Entigram.Text.CodePage

/-!
# The code pages

All code pages in order of their names, with the other names that they go by.
-/

set_option autoImplicit false

namespace Entigram
namespace Text
namespace CodePage

/-- The code pages. -/
def all : List CodePage :=
  [ { name := "cp037"
      aliases := ["037", "csibm037", "ebcdic_cp_ca", "ebcdic_cp_nl", "ebcdic_cp_us",
        "ebcdic_cp_wt", "ibm037", "ibm039"]
      runs := [(0x04, "\x9c\x09\x86\x7f\x97\x8d\x8e"), (0x14, "\x9d\x85\x08\x87\x18\x19\x92\x8f"),
        (0x20, "\x80\x81\x82\x83\x84\x0a\x17\x1b\x88\x89\x8a\x8b\x8c\x05\x06\x07"),
        (0x30, "\x90\x91\x16\x93\x94\x95\x96\x04\x98\x99\x9a\x9b\x14\x15\x9e\x1a"),
        (0x40, " \xa0âäàáãåçñ¢.<(+|&éêëèíîïìß!$*);¬-\x2fÂÄÀÁÃÅÇÑ¦,%_>?øÉÊËÈÍÎÏÌ"),
        (0x79, "\x60:#@\x27=\x22Øabcdefghi«»ðýþ±°jklmnopqrªºæ¸Æ¤µ~stuvwxyz¡¿ÐÝÞ®"),
        (0xB0, "^£¥·©§¶¼½¾[]¯¨´×\x7bABCDEFGHI\xadôöòóõ\x7dJKLMNOPQR¹ûüùúÿ\x5c÷ST"),
        (0xE4, "UVWXYZ²ÔÖÒÓÕ0123456789³ÛÜÙÚ\x9f")] },
    { name := "cp1006"
      runs := [(0xA1, "\u06F0\u06F1\u06F2\u06F3\u06F4\u06F5\u06F6\u06F7\u06F8\u06F9"),
        (0xAB, "\u060C\u061B\xad\u061F\uFE81\uFE8D\uFE8E\uFE8E\uFE8F\uFE91\uFB56"),
        (0xB6, "\uFB58\uFE93\uFE95\uFE97\uFB66\uFB68\uFE99\uFE9B\uFE9D\uFE9F"),
        (0xC0, "\uFB7A\uFB7C\uFEA1\uFEA3\uFEA5\uFEA7\uFEA9\uFB84\uFEAB\uFEAD"),
        (0xCA, "\uFB8C\uFEAF\uFB8A\uFEB1\uFEB3\uFEB5\uFEB7\uFEB9\uFEBB\uFEBD"),
        (0xD4, "\uFEBF\uFEC1\uFEC5\uFEC9\uFECA\uFECB\uFECC\uFECD\uFECE\uFECF"),
        (0xDE, "\uFED0\uFED1\uFED3\uFED5\uFED7\uFED9\uFEDB\uFB92\uFB94\uFEDD"),
        (0xE8, "\uFEDF\uFEE0\uFEE1\uFEE3\uFB9E\uFEE5\uFEE7\uFE85\uFEED\uFBA6"),
        (0xF2, "\uFBA8\uFBA9\uFBAA\uFE80\uFE89\uFE8A\uFE8B\uFEF1\uFEF2\uFEF3"),
        (0xFC, "\uFBB0\uFBAE\uFE7C\uFE7D")] },
    { name := "cp1026"
      aliases := ["1026", "csibm1026", "ibm1026"]
      runs := [(0x04, "\x9c\x09\x86\x7f\x97\x8d\x8e"), (0x14, "\x9d\x85\x08\x87\x18\x19\x92\x8f"),
        (0x20, "\x80\x81\x82\x83\x84\x0a\x17\x1b\x88\x89\x8a\x8b\x8c\x05\x06\x07"),
        (0x30, "\x90\x91\x16\x93\x94\x95\x96\x04\x98\x99\x9a\x9b\x14\x15\x9e\x1a"),
        (0x40, " \xa0âäàáãå\x7bñÇ.<(+!&éêëèíîïìßĞİ*);^-\x2fÂÄÀÁÃÅ[Ñş,%_>?øÉÊËÈÍÎ"),
        (0x77, "ÏÌı:ÖŞ\x27=ÜØabcdefghi«»\x7d\x60¦±°jklmnopqrªºæ¸Æ¤µöstuvwxyz¡¿]$"),
        (0xAE, "@®¢£¥·©§¶¼½¾¬|¯¨´×çABCDEFGHI\xadô~òóõğJKLMNOPQR¹û\x5cùúÿü÷STUVWX"),
        (0xE8, "YZ²Ô#ÒÓÕ0123456789³Û\x22ÙÚ\x9f")] },
    { name := "cp1125"
      aliases := ["1125", "cp866u", "ibm1125", "ruscii"]
      runs := [(0x80, "АБВГДЕЖЗИЙКЛМНОПРСТУФХЦЧШЩЪЫЬЭЮЯабвгдежзийклмноп░▒▓│┤╡╢╖╕╣║╗╝╜╛┐"),
        (0xC0, "└┴┬├─┼╞╟╚╔╩╦╠═╬╧╨╤╥╙╘╒╓╫╪┘┌█▄▌▐▀рстуфхцчшщъыьэюяЁёҐґЄєІіЇї·√№¤■"),
        (0xFF, "\xa0")] },
    { name := "cp1140"
      aliases := ["1140", "ibm1140"]
      runs := [(0x04, "\x9c\x09\x86\x7f\x97\x8d\x8e"), (0x14, "\x9d\x85\x08\x87\x18\x19\x92\x8f"),
        (0x20, "\x80\x81\x82\x83\x84\x0a\x17\x1b\x88\x89\x8a\x8b\x8c\x05\x06\x07"),
        (0x30, "\x90\x91\x16\x93\x94\x95\x96\x04\x98\x99\x9a\x9b\x14\x15\x9e\x1a"),
        (0x40, " \xa0âäàáãåçñ¢.<(+|&éêëèíîïìß!$*);¬-\x2fÂÄÀÁÃÅÇÑ¦,%_>?øÉÊËÈÍÎÏÌ"),
        (0x79, "\x60:#@\x27=\x22Øabcdefghi«»ðýþ±°jklmnopqrªºæ¸Æ€µ~stuvwxyz¡¿ÐÝÞ®"),
        (0xB0, "^£¥·©§¶¼½¾[]¯¨´×\x7bABCDEFGHI\xadôöòóõ\x7dJKLMNOPQR¹ûüùúÿ\x5c÷ST"),
        (0xE4, "UVWXYZ²ÔÖÒÓÕ0123456789³ÛÜÙÚ\x9f")] },
    { name := "cp1250"
      aliases := ["1250", "windows_1250"]
      runs := [(0x80, "€\uFFFE‚\uFFFE„…†‡\uFFFE‰Š‹ŚŤŽŹ\uFFFE‘’“”•–—\uFFFE™š›śťžź\xa0ˇ˘Ł"),
        (0xA4, "¤Ą"), (0xAA, "Ş"), (0xAF, "Ż°±˛ł"),
        (0xB9, "ąş»Ľ˝ľżŔÁÂĂÄĹĆÇČÉĘËĚÍÎĎĐŃŇÓÔŐÖ×ŘŮÚŰÜÝŢßŕáâăäĺćçčéęëěíîďđńňóôőö÷ř"),
        (0xF9, "ůúűüýţ˙")] },
    { name := "cp1251"
      aliases := ["1251", "windows_1251"]
      runs := [(0x80, "ЂЃ‚ѓ„…†‡€‰Љ‹ЊЌЋЏђ‘’“”•–—\uFFFE™љ›њќћџ\xa0ЎўЈ¤Ґ¦§Ё©Є"),
        (0xAF, "Ї°±Ііґµ¶·ё№є»јЅѕїАБВГДЕЖЗИЙКЛМНОПРСТУФХЦЧШЩЪЫЬЭЮЯабвгдежзийклмно"),
        (0xEF, "прстуфхцчшщъыьэюя")] },
    { name := "cp1252"
      aliases := ["1252", "windows_1252"]
      runs := [(0x80, "€\uFFFE‚ƒ„…†‡ˆ‰Š‹Œ\uFFFEŽ\uFFFE\uFFFE‘’“”•–—˜™š›œ\uFFFEžŸ")] },
    { name := "cp1253"
      aliases := ["1253", "windows_1253"]
      runs := [(0x80, "€\uFFFE‚ƒ„…†‡\uFFFE‰\uFFFE‹\uFFFE\uFFFE\uFFFE\uFFFE\uFFFE‘’“”•–—"),
        (0x98, "\uFFFE™\uFFFE›\uFFFE\uFFFE\uFFFE\uFFFE\xa0΅Ά"), (0xAA, "\uFFFE"), (0xAF, "―"),
        (0xB4, "΄µ¶·ΈΉΊ»Ό½ΎΏΐΑΒΓΔΕΖΗΘΙΚΛΜΝΞΟΠΡ\uFFFEΣΤΥΦΧΨΩΪΫάέήίΰαβγδεζηθικλμνξ"),
        (0xEF, "οπρςστυφχψωϊϋόύώ\uFFFE")] },
    { name := "cp1254"
      aliases := ["1254", "windows_1254"]
      runs := [(0x80, "€\uFFFE‚ƒ„…†‡ˆ‰Š‹Œ\uFFFE\uFFFE\uFFFE\uFFFE‘’“”•–—˜™š›œ\uFFFE"),
        (0x9E, "\uFFFEŸ"), (0xD0, "Ğ"), (0xDD, "İŞ"), (0xF0, "ğ"), (0xFD, "ış")] },
    { name := "cp1255"
      aliases := ["1255", "windows_1255"]
      runs := [(0x80, "€\uFFFE‚ƒ„…†‡ˆ‰\uFFFE‹\uFFFE\uFFFE\uFFFE\uFFFE\uFFFE‘’“”•–—˜™"),
        (0x9A, "\uFFFE›\uFFFE\uFFFE\uFFFE\uFFFE"), (0xA4, "₪"), (0xAA, "×"), (0xBA, "÷"),
        (0xC0, "\u05B0\u05B1\u05B2\u05B3\u05B4\u05B5\u05B6\u05B7\u05B8\u05B9"),
        (0xCA, "\uFFFE\u05BB\u05BC\u05BD\u05BE\u05BF\u05C0\u05C1\u05C2\u05C3"),
        (0xD4, "\u05F0\u05F1\u05F2\u05F3\u05F4\uFFFE\uFFFE\uFFFE\uFFFE\uFFFE"),
        (0xDE, "\uFFFE\uFFFE\u05D0\u05D1\u05D2\u05D3\u05D4\u05D5\u05D6\u05D7"),
        (0xE8, "\u05D8\u05D9\u05DA\u05DB\u05DC\u05DD\u05DE\u05DF\u05E0\u05E1"),
        (0xF2, "\u05E2\u05E3\u05E4\u05E5\u05E6\u05E7\u05E8\u05E9\u05EA\uFFFE"),
        (0xFC, "\uFFFE\u200E\u200F\uFFFE")] },
    { name := "cp1256"
      aliases := ["1256", "windows_1256"]
      runs := [(0x80, "€\u067E‚ƒ„…†‡ˆ‰\u0679‹Œ\u0686\u0698\u0688\u06AF‘’“”•–—\u06A9™"),
        (0x9A, "\u0691›œ\u200C\u200D\u06BA\xa0\u060C"), (0xAA, "\u06BE"), (0xBA, "\u061B"),
        (0xBF, "\u061F\u06C1\u0621\u0622\u0623\u0624\u0625\u0626\u0627\u0628"),
        (0xC9, "\u0629\u062A\u062B\u062C\u062D\u062E\u062F\u0630\u0631\u0632"),
        (0xD3, "\u0633\u0634\u0635\u0636×\u0637\u0638\u0639\u063A\u0640\u0641"),
        (0xDE, "\u0642\u0643à\u0644â\u0645\u0646\u0647\u0648"),
        (0xEC, "\u0649\u064Aîï\u064B\u064C\u064D\u064Eô\u064F\u0650÷\u0651ù"),
        (0xFA, "\u0652ûü\u200E\u200F\u06D2")] },
    { name := "cp1257"
      aliases := ["1257", "windows_1257"]
      runs := [(0x80, "€\uFFFE‚\uFFFE„…†‡\uFFFE‰\uFFFE‹\uFFFE¨ˇ¸\uFFFE‘’“”•–—\uFFFE™"),
        (0x9A, "\uFFFE›\uFFFE¯˛\uFFFE\xa0\uFFFE¢£¤\uFFFE¦§Ø©Ŗ"), (0xAF, "Æ"), (0xB8, "ø¹ŗ"),
        (0xBF, "æĄĮĀĆÄÅĘĒČÉŹĖĢĶĪĻŠŃŅÓŌÕÖ×ŲŁŚŪÜŻŽßąįāćäåęēčéźėģķīļšńņóōõö÷ųłśūüżž"), (0xFF, "˙")] },
    { name := "cp1258"
      aliases := ["1258", "windows_1258"]
      runs := [(0x80, "€\uFFFE‚ƒ„…†‡ˆ‰\uFFFE‹Œ\uFFFE\uFFFE\uFFFE\uFFFE‘’“”•–—˜™\uFFFE›œ"),
        (0x9D, "\uFFFE\uFFFEŸ"), (0xC3, "Ă"), (0xCC, "\u0300ÍÎÏĐÑ\u0309ÓÔƠ"), (0xDD, "Ư\u0303"),
        (0xE3, "ă"), (0xEC, "\u0301íîïđñ\u0323óôơ"), (0xFD, "ư₫")] },
    { name := "cp273"
      aliases := ["273", "csibm273", "ibm273"]
      runs := [(0x04, "\x9c\x09\x86\x7f\x97\x8d\x8e"), (0x14, "\x9d\x85\x08\x87\x18\x19\x92\x8f"),
        (0x20, "\x80\x81\x82\x83\x84\x0a\x17\x1b\x88\x89\x8a\x8b\x8c\x05\x06\x07"),
        (0x30, "\x90\x91\x16\x93\x94\x95\x96\x04\x98\x99\x9a\x9b\x14\x15\x9e\x1a"),
        (0x40, " \xa0â\x7bàáãåçñÄ.<(+!&éêëèíîïì~Ü$*);^-\x2fÂ[ÀÁÃÅÇÑö,%_>?øÉÊËÈÍÎ"),
        (0x77, "ÏÌ\x60:#§\x27=\x22Øabcdefghi«»ðýþ±°jklmnopqrªºæ¸Æ¤µßstuvwxyz¡¿ÐÝ"),
        (0xAE, "Þ®¢£¥·©@¶¼½¾¬|‾¨´×äABCDEFGHI\xadô¦òóõüJKLMNOPQR¹û\x7dùúÿÖ÷STUVWX"),
        (0xE8, "YZ²Ô\x5cÒÓÕ0123456789³Û]ÙÚ\x9f")] },
    { name := "cp424"
      aliases := ["424", "csibm424", "ebcdic_cp_he", "ibm424"]
      runs := [(0x04, "\x9c\x09\x86\x7f\x97\x8d\x8e"), (0x14, "\x9d\x85\x08\x87\x18\x19\x92\x8f"),
        (0x20, "\x80\x81\x82\x83\x84\x0a\x17\x1b\x88\x89\x8a\x8b\x8c\x05\x06\x07"),
        (0x30, "\x90\x91\x16\x93\x94\x95\x96\x04\x98\x99\x9a\x9b\x14\x15\x9e\x1a"),
        (0x40, " \u05D0\u05D1\u05D2\u05D3\u05D4\u05D5\u05D6\u05D7\u05D8¢.<(+|&"),
        (0x51, "\u05D9\u05DA\u05DB\u05DC\u05DD\u05DE\u05DF\u05E0\u05E1!$*);¬-"),
        (0x61, "\x2f\u05E2\u05E3\u05E4\u05E5\u05E6\u05E7\u05E8\u05E9¦,%_>?\uFFFE"),
        (0x71, "\u05EA\uFFFE\uFFFE\xa0\uFFFE\uFFFE\uFFFE‗\x60:#@\x27=\x22\uFFFEa"),
        (0x82, "bcdefghi«»\uFFFE\uFFFE\uFFFE±°jklmnopqr\uFFFE\uFFFE\uFFFE¸\uFFFE"),
        (0x9F, "¤µ~stuvwxyz\uFFFE\uFFFE\uFFFE\uFFFE\uFFFE®^£¥·©§¶¼½¾[]¯¨´×\x7bAB"),
        (0xC3, "CDEFGHI\xad\uFFFE\uFFFE\uFFFE\uFFFE\uFFFE\x7dJKLMNOPQR¹\uFFFE"),
        (0xDC, "\uFFFE\uFFFE\uFFFE\uFFFE\x5c÷STUVWXYZ²\uFFFE\uFFFE\uFFFE\uFFFE"),
        (0xEF, "\uFFFE0123456789³\uFFFE\uFFFE\uFFFE\uFFFE\x9f")] },
    { name := "cp437"
      aliases := ["437", "cspc8codepage437", "ibm437"]
      runs := [(0x80, "ÇüéâäàåçêëèïîìÄÅÉæÆôöòûùÿÖÜ¢£¥₧ƒáíóúñÑªº¿⌐¬½¼¡«»░▒▓│┤╡╢╖╕╣║╗╝╜╛┐"),
        (0xC0, "└┴┬├─┼╞╟╚╔╩╦╠═╬╧╨╤╥╙╘╒╓╫╪┘┌█▄▌▐▀αßΓπΣσµτΦΘΩδ∞φε∩≡±≥≤⌠⌡÷≈°∙·√ⁿ²■"),
        (0xFF, "\xa0")] },
    { name := "cp500"
      aliases := ["500", "csibm500", "ebcdic_cp_be", "ebcdic_cp_ch", "ibm500"]
      runs := [(0x04, "\x9c\x09\x86\x7f\x97\x8d\x8e"), (0x14, "\x9d\x85\x08\x87\x18\x19\x92\x8f"),
        (0x20, "\x80\x81\x82\x83\x84\x0a\x17\x1b\x88\x89\x8a\x8b\x8c\x05\x06\x07"),
        (0x30, "\x90\x91\x16\x93\x94\x95\x96\x04\x98\x99\x9a\x9b\x14\x15\x9e\x1a"),
        (0x40, " \xa0âäàáãåçñ[.<(+!&éêëèíîïìß]$*);^-\x2fÂÄÀÁÃÅÇÑ¦,%_>?øÉÊËÈÍÎÏÌ"),
        (0x79, "\x60:#@\x27=\x22Øabcdefghi«»ðýþ±°jklmnopqrªºæ¸Æ¤µ~stuvwxyz¡¿ÐÝÞ®"),
        (0xB0, "¢£¥·©§¶¼½¾¬|¯¨´×\x7bABCDEFGHI\xadôöòóõ\x7dJKLMNOPQR¹ûüùúÿ\x5c÷ST"),
        (0xE4, "UVWXYZ²ÔÖÒÓÕ0123456789³ÛÜÙÚ\x9f")] },
    { name := "cp720"
      runs := [(0x82, "éâ\x84à\x86çêëèïî"),
        (0x91, "\u0651\u0652ô¤\u0640ûù\u0621\u0622\u0623\u0624£\u0625\u0626"),
        (0x9F, "\u0627\u0628\u0629\u062A\u062B\u062C\u062D\u062E\u062F\u0630"),
        (0xA9, "\u0631\u0632\u0633\u0634\u0635«»░▒▓│┤╡╢╖╕╣║╗╝╜╛┐└┴┬├─┼╞╟╚╔╩╦╠═╬╧"),
        (0xD0, "╨╤╥╙╘╒╓╫╪┘┌█▄▌▐▀\u0636\u0637\u0638\u0639\u063A\u0641µ\u0642"),
        (0xE8, "\u0643\u0644\u0645\u0646\u0647\u0648\u0649\u064A≡\u064B\u064C"),
        (0xF3, "\u064D\u064E\u064F\u0650≈°∙·√ⁿ²■\xa0")] },
    { name := "cp737"
      runs := [(0x80, "ΑΒΓΔΕΖΗΘΙΚΛΜΝΞΟΠΡΣΤΥΦΧΨΩαβγδεζηθικλμνξοπρσςτυφχψ░▒▓│┤╡╢╖╕╣║╗╝╜╛┐"),
        (0xC0, "└┴┬├─┼╞╟╚╔╩╦╠═╬╧╨╤╥╙╘╒╓╫╪┘┌█▄▌▐▀ωάέήϊίόύϋώΆΈΉΊΌΎΏ±≥≤ΪΫ÷≈°∙·√ⁿ²■"),
        (0xFF, "\xa0")] },
    { name := "cp775"
      aliases := ["775", "cspc775baltic", "ibm775"]
      runs := [(0x80, "ĆüéāäģåćłēŖŗīŹÄÅÉæÆōöĢ¢ŚśÖÜø£Ø×¤ĀĪóŻżź”¦©®¬½¼Ł«»░▒▓│┤ĄČĘĖ╣║╗╝ĮŠ┐"),
        (0xC0, "└┴┬├─┼ŲŪ╚╔╩╦╠═╬Žąčęėįšųūž┘┌█▄▌▐▀ÓßŌŃõÕµńĶķĻļņĒŅ’\xad±“¾¶§÷„°∙·¹³"),
        (0xFD, "²■\xa0")] },
    { name := "cp850"
      aliases := ["850", "cspc850multilingual", "ibm850"]
      runs := [(0x80, "ÇüéâäàåçêëèïîìÄÅÉæÆôöòûùÿÖÜø£Ø×ƒáíóúñÑªº¿®¬½¼¡«»░▒▓│┤ÁÂÀ©╣║╗╝¢¥┐"),
        (0xC0, "└┴┬├─┼ãÃ╚╔╩╦╠═╬¤ðÐÊËÈıÍÎÏ┘┌█▄¦Ì▀ÓßÔÒõÕµþÞÚÛÙýÝ¯´\xad±‗¾¶§÷¸°¨·¹³"),
        (0xFD, "²■\xa0")] },
    { name := "cp852"
      aliases := ["852", "cspcp852", "ibm852"]
      runs := [(0x80, "ÇüéâäůćçłëŐőîŹÄĆÉĹĺôöĽľŚśÖÜŤťŁ×čáíóúĄąŽžĘę¬źČş«»░▒▓│┤ÁÂĚŞ╣║╗╝Żż┐"),
        (0xC0, "└┴┬├─┼Ăă╚╔╩╦╠═╬¤đĐĎËďŇÍÎě┘┌█▄ŢŮ▀ÓßÔŃńňŠšŔÚŕŰýÝţ´\xad˝˛ˇ˘§÷¸°¨˙űŘ"),
        (0xFD, "ř■\xa0")] },
    { name := "cp855"
      aliases := ["855", "csibm855", "ibm855"]
      runs := [(0x80, "ђЂѓЃёЁєЄѕЅіІїЇјЈљЉњЊћЋќЌўЎџЏюЮъЪаАбБцЦдДеЕфФгГ«»░▒▓│┤хХиИ╣║╗╝йЙ┐"),
        (0xC0, "└┴┬├─┼кК╚╔╩╦╠═╬¤лЛмМнНоОп┘┌█▄Пя▀ЯрРсСтТуУжЖвВьЬ№\xadыЫзЗшШэЭщЩчЧ"),
        (0xFD, "§■\xa0")] },
    { name := "cp856"
      runs := [(0x80, "\u05D0\u05D1\u05D2\u05D3\u05D4\u05D5\u05D6\u05D7\u05D8\u05D9"),
        (0x8A, "\u05DA\u05DB\u05DC\u05DD\u05DE\u05DF\u05E0\u05E1\u05E2\u05E3"),
        (0x94, "\u05E4\u05E5\u05E6\u05E7\u05E8\u05E9\u05EA\uFFFE£\uFFFE×\uFFFE"),
        (0xA0, "\uFFFE\uFFFE\uFFFE\uFFFE\uFFFE\uFFFE\uFFFE\uFFFE\uFFFE®¬½¼\uFFFE"),
        (0xAE, "«»░▒▓│┤\uFFFE\uFFFE\uFFFE©╣║╗╝¢¥┐└┴┬├─┼\uFFFE\uFFFE╚╔╩╦╠═╬¤"),
        (0xD0, "\uFFFE\uFFFE\uFFFE\uFFFE\uFFFE\uFFFE\uFFFE\uFFFE\uFFFE┘┌█▄¦"),
        (0xDE, "\uFFFE▀\uFFFE\uFFFE\uFFFE\uFFFE\uFFFE\uFFFEµ\uFFFE\uFFFE\uFFFE"),
        (0xEA, "\uFFFE\uFFFE\uFFFE\uFFFE¯´\xad±‗¾¶§÷¸°¨·¹³²■\xa0")] },
    { name := "cp857"
      aliases := ["857", "csibm857", "ibm857"]
      runs := [(0x80, "ÇüéâäàåçêëèïîıÄÅÉæÆôöòûùİÖÜø£ØŞşáíóúñÑĞğ¿®¬½¼¡«»░▒▓│┤ÁÂÀ©╣║╗╝¢¥┐"),
        (0xC0, "└┴┬├─┼ãÃ╚╔╩╦╠═╬¤ºªÊËÈ\uFFFEÍÎÏ┘┌█▄¦Ì▀ÓßÔÒõÕµ\uFFFE×ÚÛÙìÿ¯´\xad±"),
        (0xF2, "\uFFFE¾¶§÷¸°¨·¹³²■\xa0")] },
    { name := "cp858"
      aliases := ["858", "csibm858", "ibm858"]
      runs := [(0x80, "ÇüéâäàåçêëèïîìÄÅÉæÆôöòûùÿÖÜø£Ø×ƒáíóúñÑªº¿®¬½¼¡«»░▒▓│┤ÁÂÀ©╣║╗╝¢¥┐"),
        (0xC0, "└┴┬├─┼ãÃ╚╔╩╦╠═╬¤ðÐÊËÈ€ÍÎÏ┘┌█▄¦Ì▀ÓßÔÒõÕµþÞÚÛÙýÝ¯´\xad±‗¾¶§÷¸°¨·¹³"),
        (0xFD, "²■\xa0")] },
    { name := "cp860"
      aliases := ["860", "csibm860", "ibm860"]
      runs := [(0x80, "ÇüéâãàÁçêÊèÍÔìÃÂÉÀÈôõòÚùÌÕÜ¢£Ù₧ÓáíóúñÑªº¿Ò¬½¼¡«»░▒▓│┤╡╢╖╕╣║╗╝╜╛┐"),
        (0xC0, "└┴┬├─┼╞╟╚╔╩╦╠═╬╧╨╤╥╙╘╒╓╫╪┘┌█▄▌▐▀αßΓπΣσµτΦΘΩδ∞φε∩≡±≥≤⌠⌡÷≈°∙·√ⁿ²■"),
        (0xFF, "\xa0")] },
    { name := "cp861"
      aliases := ["861", "cp_is", "csibm861", "ibm861"]
      runs := [(0x80, "ÇüéâäàåçêëèÐðÞÄÅÉæÆôöþûÝýÖÜø£Ø₧ƒáíóúÁÍÓÚ¿⌐¬½¼¡«»░▒▓│┤╡╢╖╕╣║╗╝╜╛┐"),
        (0xC0, "└┴┬├─┼╞╟╚╔╩╦╠═╬╧╨╤╥╙╘╒╓╫╪┘┌█▄▌▐▀αßΓπΣσµτΦΘΩδ∞φε∩≡±≥≤⌠⌡÷≈°∙·√ⁿ²■"),
        (0xFF, "\xa0")] },
    { name := "cp862"
      aliases := ["862", "cspc862latinhebrew", "ibm862"]
      runs := [(0x80, "\u05D0\u05D1\u05D2\u05D3\u05D4\u05D5\u05D6\u05D7\u05D8\u05D9"),
        (0x8A, "\u05DA\u05DB\u05DC\u05DD\u05DE\u05DF\u05E0\u05E1\u05E2\u05E3"),
        (0x94, "\u05E4\u05E5\u05E6\u05E7\u05E8\u05E9\u05EA¢£¥₧ƒáíóúñÑªº¿⌐¬½¼¡«»░"),
        (0xB1, "▒▓│┤╡╢╖╕╣║╗╝╜╛┐└┴┬├─┼╞╟╚╔╩╦╠═╬╧╨╤╥╙╘╒╓╫╪┘┌█▄▌▐▀αßΓπΣσµτΦΘΩδ∞φε∩≡"),
        (0xF1, "±≥≤⌠⌡÷≈°∙·√ⁿ²■\xa0")] },
    { name := "cp863"
      aliases := ["863", "csibm863", "ibm863"]
      runs := [(0x80, "ÇüéâÂà¶çêëèïî‗À§ÉÈÊôËÏûù¤ÔÜ¢£ÙÛƒ¦´óú¨¸³¯Î⌐¬½¼¾«»░▒▓│┤╡╢╖╕╣║╗╝╜╛┐"),
        (0xC0, "└┴┬├─┼╞╟╚╔╩╦╠═╬╧╨╤╥╙╘╒╓╫╪┘┌█▄▌▐▀αßΓπΣσµτΦΘΩδ∞φε∩≡±≥≤⌠⌡÷≈°∙·√ⁿ²■"),
        (0xFF, "\xa0")] },
    { name := "cp864"
      aliases := ["864", "csibm864", "ibm864"]
      runs := [(0x25, "\u066A"),
        (0x80, "°·∙√▒─│┼┤┬├┴┐┌└┘β∞φ±½¼≈«»\uFEF7\uFEF8\uFFFE\uFFFE\uFEFB\uFEFC"),
        (0x9F, "\uFFFE\xa0\xad\uFE82£¤\uFE84\uFFFE\uFFFE\uFE8E\uFE8F\uFE95\uFE99"),
        (0xAC, "\u060C\uFE9D\uFEA1\uFEA5\u0660\u0661\u0662\u0663\u0664\u0665"),
        (0xB6, "\u0666\u0667\u0668\u0669\uFED1\u061B\uFEB1\uFEB5\uFEB9\u061F¢"),
        (0xC1, "\uFE80\uFE81\uFE83\uFE85\uFECA\uFE8B\uFE8D\uFE91\uFE93\uFE97"),
        (0xCB, "\uFE9B\uFE9F\uFEA3\uFEA7\uFEA9\uFEAB\uFEAD\uFEAF\uFEB3\uFEB7"),
        (0xD5, "\uFEBB\uFEBF\uFEC1\uFEC5\uFECB\uFECF¦¬÷×\uFEC9\u0640\uFED3\uFED7"),
        (0xE3, "\uFEDB\uFEDF\uFEE3\uFEE7\uFEEB\uFEED\uFEEF\uFEF3\uFEBD\uFECC"),
        (0xED, "\uFECE\uFECD\uFEE1\uFE7D\u0651\uFEE5\uFEE9\uFEEC\uFEF0\uFEF2"),
        (0xF7, "\uFED0\uFED5\uFEF5\uFEF6\uFEDD\uFED9\uFEF1■\uFFFE")] },
    { name := "cp865"
      aliases := ["865", "csibm865", "ibm865"]
      runs := [(0x80, "ÇüéâäàåçêëèïîìÄÅÉæÆôöòûùÿÖÜø£Ø₧ƒáíóúñÑªº¿⌐¬½¼¡«¤░▒▓│┤╡╢╖╕╣║╗╝╜╛┐"),
        (0xC0, "└┴┬├─┼╞╟╚╔╩╦╠═╬╧╨╤╥╙╘╒╓╫╪┘┌█▄▌▐▀αßΓπΣσµτΦΘΩδ∞φε∩≡±≥≤⌠⌡÷≈°∙·√ⁿ²■"),
        (0xFF, "\xa0")] },
    { name := "cp866"
      aliases := ["866", "csibm866", "ibm866"]
      runs := [(0x80, "АБВГДЕЖЗИЙКЛМНОПРСТУФХЦЧШЩЪЫЬЭЮЯабвгдежзийклмноп░▒▓│┤╡╢╖╕╣║╗╝╜╛┐"),
        (0xC0, "└┴┬├─┼╞╟╚╔╩╦╠═╬╧╨╤╥╙╘╒╓╫╪┘┌█▄▌▐▀рстуфхцчшщъыьэюяЁёЄєЇїЎў°∙·√№¤■"),
        (0xFF, "\xa0")] },
    { name := "cp869"
      aliases := ["869", "cp_gr", "csibm869", "ibm869"]
      runs := [(0x80, "\uFFFE\uFFFE\uFFFE\uFFFE\uFFFE\uFFFEΆ\uFFFE·¬¦‘’Έ―ΉΊΪΌ\uFFFE"),
        (0x94, "\uFFFEΎΫ©Ώ²³ά£έήίϊΐόύΑΒΓΔΕΖΗ½ΘΙ«»░▒▓│┤ΚΛΜΝ╣║╗╝ΞΟ┐└┴┬├─┼ΠΡ╚╔╩╦╠═╬"),
        (0xCF, "ΣΤΥΦΧΨΩαβγ┘┌█▄δε▀ζηθικλμνξοπρσςτ΄\xad±υφχ§ψ΅°¨ωϋΰώ■\xa0")] },
    { name := "cp874"
      runs := [(0x80, "€\uFFFE\uFFFE\uFFFE\uFFFE…\uFFFE\uFFFE\uFFFE\uFFFE\uFFFE\uFFFE"),
        (0x8C, "\uFFFE\uFFFE\uFFFE\uFFFE\uFFFE‘’“”•–—\uFFFE\uFFFE\uFFFE\uFFFE"),
        (0x9C, "\uFFFE\uFFFE\uFFFE\uFFFE\xa0กขฃคฅฆงจฉชซฌญฎฏฐฑฒณดตถทธนบปผฝพฟภมยรฤ"),
        (0xC5, "ลฦวศษสหฬอฮฯะัาำิีึื\u0E38\u0E39\u0E3A\uFFFE\uFFFE\uFFFE\uFFFE฿เแ"),
        (0xE2, "โใไๅๆ็\u0E48\u0E49\u0E4A\u0E4B์ํ๎๏๐๑๒๓๔๕๖๗๘๙๚๛\uFFFE\uFFFE\uFFFE"),
        (0xFF, "\uFFFE")] },
    { name := "cp875"
      runs := [(0x04, "\x9c\x09\x86\x7f\x97\x8d\x8e"), (0x14, "\x9d\x85\x08\x87\x18\x19\x92\x8f"),
        (0x20, "\x80\x81\x82\x83\x84\x0a\x17\x1b\x88\x89\x8a\x8b\x8c\x05\x06\x07"),
        (0x30, "\x90\x91\x16\x93\x94\x95\x96\x04\x98\x99\x9a\x9b\x14\x15\x9e\x1a"),
        (0x40, " ΑΒΓΔΕΖΗΘΙ[.<(+!&ΚΛΜΝΞΟΠΡΣ]$*);^-\x2fΤΥΦΧΨΩΪΫ|,%_>?¨ΆΈΉ\xa0ΊΌΎΏ"),
        (0x79, "\x60:#@\x27=\x22΅abcdefghiαβγδεζ°jklmnopqrηθικλμ´~stuvwxyzνξοπρσ"),
        (0xB0, "£άέήϊίόύϋώςτυφχψ\x7bABCDEFGHI\xadωΐΰ‘―\x7dJKLMNOPQR±½\x1a·’¦\x5c"),
        (0xE1, "\x1aSTUVWXYZ²§\x1a\x1a«¬0123456789³©\x1a\x1a»\x9f")] },
    { name := "hp_roman8"
      aliases := ["cp1051", "csHPRoman8", "ibm1051", "r8", "roman8"]
      runs := [(0xA1, "ÀÂÈÊËÎÏ´ˋˆ¨˜ÙÛ₤¯Ýý°ÇçÑñ¡¿¤£¥§ƒ¢âêôûáéóúàèòùäëöüÅîØÆåíøæÄìÖÜÉïßÔÁ"),
        (0xE1, "ÃãÐðÍÌÓÒÕõŠšÚŸÿÞþ·µ¶¾—¼½ªº«■»±\uFFFE")] },
    { name := "iso8859_10"
      aliases := ["csisolatin6", "iso_8859_10", "iso_8859_10_1992", "iso_ir_157", "l6", "latin6"]
      runs := [(0xA1, "ĄĒĢĪĨĶ§ĻĐŠŦŽ\xadŪŊ°ąēģīĩķ·ļđšŧž―ūŋĀ"), (0xC7, "ĮČÉĘËĖ"), (0xD1, "ŅŌ"),
        (0xD7, "ŨØŲ"), (0xE0, "ā"), (0xE7, "įčéęëė"), (0xF1, "ņō"), (0xF7, "ũøų"), (0xFF, "ĸ")] },
    { name := "iso8859_11"
      aliases := ["iso_8859_11", "iso_8859_11_2001", "thai"]
      runs := [(0xA1, "กขฃคฅฆงจฉชซฌญฎฏฐฑฒณดตถทธนบปผฝพฟภมยรฤลฦวศษสหฬอฮฯะัาำิีึื\u0E38"),
        (0xD9, "\u0E39\u0E3A\uFFFE\uFFFE\uFFFE\uFFFE฿เแโใไๅๆ็\u0E48\u0E49\u0E4A"),
        (0xEB, "\u0E4B์ํ๎๏๐๑๒๓๔๕๖๗๘๙๚๛\uFFFE\uFFFE\uFFFE\uFFFE")] },
    { name := "iso8859_13"
      aliases := ["iso_8859_13", "l7", "latin7"]
      runs := [(0xA1, "”¢£¤„¦§Ø©Ŗ"), (0xAF, "Æ"), (0xB4, "“µ¶·ø¹ŗ"),
        (0xBF, "æĄĮĀĆÄÅĘĒČÉŹĖĢĶĪĻŠŃŅÓŌÕÖ×ŲŁŚŪÜŻŽßąįāćäåęēčéźėģķīļšńņóōõö÷ųłśūüżž"), (0xFF, "’")] },
    { name := "iso8859_14"
      aliases := ["iso_8859_14", "iso_8859_14_1998", "iso_celtic", "iso_ir_199", "l8", "latin8"]
      runs := [(0xA1, "Ḃḃ£ĊċḊ§Ẁ©ẂḋỲ\xad®ŸḞḟĠġṀṁ¶ṖẁṗẃṠỳẄẅṡ"), (0xD0, "Ŵ"), (0xD7, "Ṫ"),
        (0xDE, "Ŷ"), (0xF0, "ŵ"), (0xF7, "ṫ"), (0xFE, "ŷ")] },
    { name := "iso8859_15"
      aliases := ["iso_8859_15", "l9", "latin9"]
      runs := [(0xA4, "€¥Š§š"), (0xB4, "Žµ¶·ž¹º»ŒœŸ")] },
    { name := "iso8859_16"
      aliases := ["iso_8859_16", "iso_8859_16_2001", "iso_ir_226", "l10", "latin10"]
      runs := [(0xA1, "ĄąŁ€„Š§š©Ș«Ź\xadźŻ°±ČłŽ”¶·žčș»ŒœŸżÀÁÂĂÄĆ"), (0xD0, "ĐŃÒÓÔŐÖŚŰ"),
        (0xDD, "ĘȚ"), (0xE3, "ăäć"), (0xF0, "đńòóôőöśű"), (0xFD, "ęț")] },
    { name := "iso8859_2"
      aliases := ["csisolatin2", "iso_8859_2", "iso_8859_2_1987", "iso_ir_101", "l2", "latin2"]
      runs := [(0xA1, "Ą˘Ł¤ĽŚ§¨ŠŞŤŹ\xadŽŻ°ą˛ł´ľśˇ¸šşťź˝žżŔÁÂĂÄĹĆÇČÉĘËĚÍÎĎĐŃŇÓÔŐÖ×ŘŮÚŰÜÝ"),
        (0xDE, "Ţßŕáâăäĺćçčéęëěíîďđńňóôőö÷řůúűüýţ˙")] },
    { name := "iso8859_3"
      aliases := ["csisolatin3", "iso_8859_3", "iso_8859_3_1988", "iso_ir_109", "l3", "latin3"]
      runs := [(0xA1, "Ħ˘£¤\uFFFEĤ§¨İŞĞĴ\xad\uFFFEŻ°ħ"), (0xB6, "ĥ·¸ışğĵ½\uFFFEżÀÁÂ\uFFFEÄĊĈ"),
        (0xD0, "\uFFFE"), (0xD5, "ĠÖ×Ĝ"), (0xDD, "ŬŜ"), (0xE3, "\uFFFEäċĉ"), (0xF0, "\uFFFE"),
        (0xF5, "ġö÷ĝ"), (0xFD, "ŭŝ˙")] },
    { name := "iso8859_4"
      aliases := ["csisolatin4", "iso_8859_4", "iso_8859_4_1988", "iso_ir_110", "l4", "latin4"]
      runs := [(0xA1, "ĄĸŖ¤ĨĻ§¨ŠĒĢŦ\xadŽ¯°ą˛ŗ´ĩļˇ¸šēģŧŊžŋĀ"), (0xC7, "ĮČÉĘËĖÍÎĪĐŅŌĶ"),
        (0xD9, "ŲÚÛÜŨŪßā"), (0xE7, "įčéęëėíîīđņōķ"), (0xF9, "ųúûüũū˙")] },
    { name := "iso8859_5"
      aliases := ["csisolatincyrillic", "cyrillic", "iso_8859_5", "iso_8859_5_1988", "iso_ir_144"]
      runs := [(0xA1, "ЁЂЃЄЅІЇЈЉЊЋЌ\xadЎЏАБВГДЕЖЗИЙКЛМНОПРСТУФХЦЧШЩЪЫЬЭЮЯабвгдежзийклмн"),
        (0xDE, "опрстуфхцчшщъыьэюя№ёђѓєѕіїјљњћќ§ўџ")] },
    { name := "iso8859_6"
      aliases := ["arabic", "asmo_708", "csisolatinarabic", "ecma_114", "iso_8859_6",
        "iso_8859_6_1987", "iso_ir_127"]
      runs := [(0xA1, "\uFFFE\uFFFE\uFFFE¤\uFFFE\uFFFE\uFFFE\uFFFE\uFFFE\uFFFE\uFFFE"),
        (0xAC, "\u060C\xad\uFFFE\uFFFE\uFFFE\uFFFE\uFFFE\uFFFE\uFFFE\uFFFE\uFFFE"),
        (0xB7, "\uFFFE\uFFFE\uFFFE\uFFFE\u061B\uFFFE\uFFFE\uFFFE\u061F\uFFFE"),
        (0xC1, "\u0621\u0622\u0623\u0624\u0625\u0626\u0627\u0628\u0629\u062A"),
        (0xCB, "\u062B\u062C\u062D\u062E\u062F\u0630\u0631\u0632\u0633\u0634"),
        (0xD5, "\u0635\u0636\u0637\u0638\u0639\u063A\uFFFE\uFFFE\uFFFE\uFFFE"),
        (0xDF, "\uFFFE\u0640\u0641\u0642\u0643\u0644\u0645\u0646\u0647\u0648"),
        (0xE9, "\u0649\u064A\u064B\u064C\u064D\u064E\u064F\u0650\u0651\u0652"),
        (0xF3, "\uFFFE\uFFFE\uFFFE\uFFFE\uFFFE\uFFFE\uFFFE\uFFFE\uFFFE\uFFFE"),
        (0xFD, "\uFFFE\uFFFE\uFFFE")] },
    { name := "iso8859_7"
      aliases := ["csisolatingreek", "ecma_118", "elot_928", "greek", "greek8", "iso_8859_7",
        "iso_8859_7_1987", "iso_ir_126"]
      runs := [(0xA1, "‘’£€₯"), (0xAA, "ͺ«¬\xad\uFFFE―"),
        (0xB4, "΄΅Ά·ΈΉΊ»Ό½ΎΏΐΑΒΓΔΕΖΗΘΙΚΛΜΝΞΟΠΡ\uFFFEΣΤΥΦΧΨΩΪΫάέήίΰαβγδεζηθικλμνξ"),
        (0xEF, "οπρςστυφχψωϊϋόύώ\uFFFE")] },
    { name := "iso8859_8"
      aliases := ["csisolatinhebrew", "hebrew", "iso_8859_8", "iso_8859_8_1988", "iso_ir_138"]
      runs := [(0xA1, "\uFFFE"), (0xAA, "×"), (0xBA, "÷"),
        (0xBF, "\uFFFE\uFFFE\uFFFE\uFFFE\uFFFE\uFFFE\uFFFE\uFFFE\uFFFE\uFFFE"),
        (0xC9, "\uFFFE\uFFFE\uFFFE\uFFFE\uFFFE\uFFFE\uFFFE\uFFFE\uFFFE\uFFFE"),
        (0xD3, "\uFFFE\uFFFE\uFFFE\uFFFE\uFFFE\uFFFE\uFFFE\uFFFE\uFFFE\uFFFE"),
        (0xDD, "\uFFFE\uFFFE‗\u05D0\u05D1\u05D2\u05D3\u05D4\u05D5\u05D6\u05D7"),
        (0xE8, "\u05D8\u05D9\u05DA\u05DB\u05DC\u05DD\u05DE\u05DF\u05E0\u05E1"),
        (0xF2, "\u05E2\u05E3\u05E4\u05E5\u05E6\u05E7\u05E8\u05E9\u05EA\uFFFE"),
        (0xFC, "\uFFFE\u200E\u200F\uFFFE")] },
    { name := "iso8859_9"
      aliases := ["csisolatin5", "iso_8859_9", "iso_8859_9_1989", "iso_ir_148", "l5", "latin5"]
      runs := [(0xD0, "Ğ"), (0xDD, "İŞ"), (0xF0, "ğ"), (0xFD, "ış")] },
    { name := "koi8_r"
      aliases := ["cskoi8r"]
      runs := [(0x80, "─│┌┐└┘├┤┬┴┼▀▄█▌▐░▒▓⌠■∙√≈≤≥\xa0⌡°²·÷═║╒ё╓╔╕╖╗╘╙╚╛╜╝╞╟╠╡Ё╢╣╤╥╦╧╨╩╪"),
        (0xBD, "╫╬©юабцдефгхийклмнопярстужвьызшэщчъЮАБЦДЕФГХИЙКЛМНОПЯРСТУЖВЬЫЗШЭ"),
        (0xFD, "ЩЧЪ")] },
    { name := "koi8_t"
      runs := [(0x80, "қғ‚Ғ„…†‡\uFFFE‰ҳ‹ҲҷҶ\uFFFEҚ‘’“”•–—\uFFFE™\uFFFE›\uFFFE\uFFFE"),
        (0x9E, "\uFFFE\uFFFE\uFFFEӯӮё¤ӣ¦§\uFFFE\uFFFE\uFFFE"),
        (0xAF, "\uFFFE°±²Ё\uFFFEӢ¶·\uFFFE№\uFFFE»\uFFFE\uFFFE\uFFFE©юабцдефгхийк"),
        (0xCC, "лмнопярстужвьызшэщчъЮАБЦДЕФГХИЙКЛМНОПЯРСТУЖВЬЫЗШЭЩЧЪ")] },
    { name := "koi8_u"
      runs := [(0x80, "─│┌┐└┘├┤┬┴┼▀▄█▌▐░▒▓⌠■∙√≈≤≥\xa0⌡°²·÷═║╒ёє╔ії╗╘╙╚╛ґ╝╞╟╠╡ЁЄ╣ІЇ╦╧╨╩╪"),
        (0xBD, "Ґ╬©юабцдефгхийклмнопярстужвьызшэщчъЮАБЦДЕФГХИЙКЛМНОПЯРСТУЖВЬЫЗШЭ"),
        (0xFD, "ЩЧЪ")] },
    { name := "kz1048"
      aliases := ["kz_1048", "rk1048", "strk1048_2002"]
      runs := [(0x80, "ЂЃ‚ѓ„…†‡€‰Љ‹ЊҚҺЏђ‘’“”•–—\uFFFE™љ›њқһџ\xa0ҰұӘ¤Ө¦§Ё©Ғ"),
        (0xAF, "Ү°±Ііөµ¶·ё№ғ»әҢңүАБВГДЕЖЗИЙКЛМНОПРСТУФХЦЧШЩЪЫЬЭЮЯабвгдежзийклмно"),
        (0xEF, "прстуфхцчшщъыьэюя")] },
    { name := "mac_arabic"
      runs := [(0x80, "Ä\xa0ÇÉÑÖÜáàâä\u06BA«çéèêëí…îïñó»ôö÷úùûü !\x22#$\u066A&\x27()*+"),
        (0xAC, "\u060C-.\x2f\u0660\u0661\u0662\u0663\u0664\u0665\u0666\u0667"),
        (0xB8, "\u0668\u0669:\u061B<=>\u061F❊\u0621\u0622\u0623\u0624\u0625"),
        (0xC6, "\u0626\u0627\u0628\u0629\u062A\u062B\u062C\u062D\u062E\u062F"),
        (0xD0, "\u0630\u0631\u0632\u0633\u0634\u0635\u0636\u0637\u0638\u0639"),
        (0xDA, "\u063A[\x5c]^_\u0640\u0641\u0642\u0643\u0644\u0645\u0646\u0647"),
        (0xE8, "\u0648\u0649\u064A\u064B\u064C\u064D\u064E\u064F\u0650\u0651"),
        (0xF2, "\u0652\u067E\u0679\u0686\u06D5\u06A4\u06AF\u0688\u0691\x7b|\x7d"),
        (0xFE, "\u0698\u06D2")] },
    { name := "mac_croatian"
      runs := [(0x80, "ÄÅÇÉÑÖÜáàâäãåçéèêëíìîïñóòôöõúùûü†°¢£§•¶ß®Š™´¨≠ŽØ∞±≤≥∆µ∂∑∏š∫ªºΩžø"),
        (0xC0, "¿¡¬√ƒ≈Ć«Č…\xa0ÀÃÕŒœĐ—“”‘’÷◊\uF8FF©⁄€‹›Æ»–·‚„‰ÂćÁčÈÍÎÏÌÓÔđÒÚÛÙıˆ˜"),
        (0xF8, "¯πË˚¸Êæˇ")] },
    { name := "mac_cyrillic"
      aliases := ["maccyrillic"]
      runs := [(0x80, "АБВГДЕЖЗИЙКЛМНОПРСТУФХЦЧШЩЪЫЬЭЮЯ†°Ґ£§•¶І®©™Ђђ≠Ѓѓ∞±≤≥іµґЈЄєЇїЉљЊњ"),
        (0xC0, "јЅ¬√ƒ≈∆«»…\xa0ЋћЌќѕ–—“”‘’÷„ЎўЏџ№Ёёяабвгдежзийклмнопрстуфхцчшщъыь"),
        (0xFD, "эю€")] },
    { name := "mac_farsi"
      runs := [(0x80, "Ä\xa0ÇÉÑÖÜáàâä\u06BA«çéèêëí…îïñó»ôö÷úùûü !\x22#$\u066A&\x27()*+"),
        (0xAC, "\u060C-.\x2f\u06F0\u06F1\u06F2\u06F3\u06F4\u06F5\u06F6\u06F7"),
        (0xB8, "\u06F8\u06F9:\u061B<=>\u061F❊\u0621\u0622\u0623\u0624\u0625"),
        (0xC6, "\u0626\u0627\u0628\u0629\u062A\u062B\u062C\u062D\u062E\u062F"),
        (0xD0, "\u0630\u0631\u0632\u0633\u0634\u0635\u0636\u0637\u0638\u0639"),
        (0xDA, "\u063A[\x5c]^_\u0640\u0641\u0642\u0643\u0644\u0645\u0646\u0647"),
        (0xE8, "\u0648\u0649\u064A\u064B\u064C\u064D\u064E\u064F\u0650\u0651"),
        (0xF2, "\u0652\u067E\u0679\u0686\u06D5\u06A4\u06AF\u0688\u0691\x7b|\x7d"),
        (0xFE, "\u0698\u06D2")] },
    { name := "mac_greek"
      aliases := ["macgreek"]
      runs := [(0x80, "Ä¹²É³ÖÜ΅àâä΄¨çéèêë£™îï•½‰ôö¦€ùûü†ΓΔΘΛΞΠß®©ΣΪ§≠°·Α±≤≥¥ΒΕΖΗΙΚΜΦΫΨΩ"),
        (0xC0, "άΝ¬ΟΡ≈Τ«»…\xa0ΥΧΆΈœ–―“”‘’÷ΉΊΌΎέήίόΏύαβψδεφγηιξκλμνοπώρστθωςχυζϊϋ"),
        (0xFD, "ΐΰ\xad")] },
    { name := "mac_iceland"
      aliases := ["maciceland"]
      runs := [(0x80, "ÄÅÇÉÑÖÜáàâäãåçéèêëíìîïñóòôöõúùûüÝ°¢£§•¶ß®©™´¨≠ÆØ∞±≤≥¥µ∂∑∏π∫ªºΩæø"),
        (0xC0, "¿¡¬√ƒ≈∆«»…\xa0ÀÃÕŒœ–—“”‘’÷◊ÿŸ⁄€ÐðÞþý·‚„‰ÂÊÁËÈÍÎÏÌÓÔ\uF8FFÒÚÛÙıˆ˜"),
        (0xF8, "¯˘˙˚¸˝˛ˇ")] },
    { name := "mac_latin2"
      aliases := ["mac_centeuro", "maccentraleurope", "maclatin2"]
      runs := [(0x80, "ÄĀāÉĄÖÜáąČäčĆćéŹźĎíďĒēĖóėôöõúĚěü†°Ę£§•¶ß®©™ę¨≠ģĮįĪ≤≥īĶ∂∑łĻļĽľĹĺŅ"),
        (0xC0, "ņŃ¬√ńŇ∆«»…\xa0ňŐÕőŌ–—“”‘’÷◊ōŔŕŘ‹›řŖŗŠ‚„šŚśÁŤťÍŽžŪÓÔūŮÚůŰűŲųÝýķŻŁ"),
        (0xFD, "żĢˇ")] },
    { name := "mac_roman"
      aliases := ["macintosh", "macroman"]
      runs := [(0x80, "ÄÅÇÉÑÖÜáàâäãåçéèêëíìîïñóòôöõúùûü†°¢£§•¶ß®©™´¨≠ÆØ∞±≤≥¥µ∂∑∏π∫ªºΩæø"),
        (0xC0, "¿¡¬√ƒ≈∆«»…\xa0ÀÃÕŒœ–—“”‘’÷◊ÿŸ⁄€‹›\uFB01\uFB02‡·‚„‰ÂÊÁËÈÍÎÏÌÓÔ"),
        (0xF0, "\uF8FFÒÚÛÙıˆ˜¯˘˙˚¸˝˛ˇ")] },
    { name := "mac_romanian"
      runs := [(0x80, "ÄÅÇÉÑÖÜáàâäãåçéèêëíìîïñóòôöõúùûü†°¢£§•¶ß®©™´¨≠ĂȘ∞±≤≥¥µ∂∑∏π∫ªºΩăș"),
        (0xC0, "¿¡¬√ƒ≈∆«»…\xa0ÀÃÕŒœ–—“”‘’÷◊ÿŸ⁄€‹›Țț‡·‚„‰ÂÊÁËÈÍÎÏÌÓÔ\uF8FFÒÚÛÙıˆ˜"),
        (0xF8, "¯˘˙˚¸˝˛ˇ")] },
    { name := "mac_turkish"
      aliases := ["macturkish"]
      runs := [(0x80, "ÄÅÇÉÑÖÜáàâäãåçéèêëíìîïñóòôöõúùûü†°¢£§•¶ß®©™´¨≠ÆØ∞±≤≥¥µ∂∑∏π∫ªºΩæø"),
        (0xC0, "¿¡¬√ƒ≈∆«»…\xa0ÀÃÕŒœ–—“”‘’÷◊ÿŸĞğİıŞş‡·‚„‰ÂÊÁËÈÍÎÏÌÓÔ\uF8FFÒÚÛÙ"),
        (0xF5, "\uF8A0ˆ˜¯˘˙˚¸˝˛ˇ")] },
    { name := "palmos"
      runs := [(0x80, "€\x81‚ƒ„…†‡ˆ‰Š‹Œ♦♣♥♠‘’“”•–—˜™š\x9bœ\x9d\x9eŸ")] },
    { name := "ptcp154"
      aliases := ["cp154", "csptcp154", "cyrillic_asian", "pt154"]
      runs := [(0x80, "ҖҒӮғ„…ҶҮҲүҠӢҢҚҺҸҗ‘’“”•–—ҳҷҡӣңқһҹ\xa0ЎўЈӨҘҰ§Ё©Ә«¬ӯ®Ҝ°ұІіҙө¶·ё№ә»ј"),
        (0xBD, "ҪҫҝАБВГДЕЖЗИЙКЛМНОПРСТУФХЦЧШЩЪЫЬЭЮЯабвгдежзийклмнопрстуфхцчшщъыь"),
        (0xFD, "эюя")] },
    { name := "tis_620"
      aliases := ["iso_ir_166", "tis620", "tis_620_0", "tis_620_2529_0", "tis_620_2529_1"]
      runs := [(0xA0, "\uFFFEกขฃคฅฆงจฉชซฌญฎฏฐฑฒณดตถทธนบปผฝพฟภมยรฤลฦวศษสหฬอฮฯะัาำิีึื"),
        (0xD8, "\u0E38\u0E39\u0E3A\uFFFE\uFFFE\uFFFE\uFFFE฿เแโใไๅๆ็\u0E48\u0E49"),
        (0xEA, "\u0E4A\u0E4B์ํ๎๏๐๑๒๓๔๕๖๗๘๙๚๛\uFFFE\uFFFE\uFFFE\uFFFE")] }]

end CodePage
end Text
end Entigram
