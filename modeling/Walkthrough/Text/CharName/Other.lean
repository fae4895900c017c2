/-!
# Other names

Names that a character has beside its own, or instead of one: those of the control characters,
abbreviations and corrections.
-/

namespace Walkthrough.Text

/-- The names of characters that follow each other, by the code of the first.  A slash stands between
the names of one character. -/
def otherNames : List (Nat × List String) := [
  (0x0, ["NULL/NUL", "START OF HEADING/SOH", "START OF TEXT/STX", "END OF TEXT/ETX",
  "END OF TRANSMISSION/EOT", "ENQUIRY/ENQ", "ACKNOWLEDGE/ACK", "ALERT/BEL", "BACKSPACE/BS",
  "CHARACTER TABULATION/HORIZONTAL TABULATION/HT/TAB", "LINE FEED/NEW LINE/END OF LINE/EOL/LF/NL",
  "LINE TABULATION/VERTICAL TABULATION/VT", "FORM FEED/FF", "CARRIAGE RETURN/CR",
  "SHIFT OUT/LOCKING-SHIFT ONE/SO", "SHIFT IN/LOCKING-SHIFT ZERO/SI", "DATA LINK ESCAPE/DLE",
  "DEVICE CONTROL ONE/DC1", "DEVICE CONTROL TWO/DC2", "DEVICE CONTROL THREE/DC3",
  "DEVICE CONTROL FOUR/DC4", "NEGATIVE ACKNOWLEDGE/NAK", "SYNCHRONOUS IDLE/SYN",
  "END OF TRANSMISSION BLOCK/ETB", "CANCEL/CAN", "END OF MEDIUM/EOM", "SUBSTITUTE/SUB",
  "ESCAPE/ESC", "INFORMATION SEPARATOR FOUR/FILE SEPARATOR/FS",
  "INFORMATION SEPARATOR THREE/GROUP SEPARATOR/GS", "INFORMATION SEPARATOR TWO/RECORD SEPARATOR/RS",
  "INFORMATION SEPARATOR ONE/UNIT SEPARATOR/US", "SP"]), (0x7f, ["DELETE/DEL",
  "PADDING CHARACTER/PAD", "HIGH OCTET PRESET/HOP", "BREAK PERMITTED HERE/BPH", "NO BREAK HERE/NBH",
  "INDEX/IND", "NEXT LINE/NEL", "START OF SELECTED AREA/SSA", "END OF SELECTED AREA/ESA",
  "CHARACTER TABULATION SET/HORIZONTAL TABULATION SET/HTS",
  "CHARACTER TABULATION WITH JUSTIFICATION/HORIZONTAL TABULATION WITH JUSTIFICATION/HTJ",
  "LINE TABULATION SET/VERTICAL TABULATION SET/VTS", "PARTIAL LINE FORWARD/PARTIAL LINE DOWN/PLD",
  "PARTIAL LINE BACKWARD/PARTIAL LINE UP/PLU", "REVERSE LINE FEED/REVERSE INDEX/RI",
  "SINGLE SHIFT TWO/SINGLE-SHIFT-2/SS2", "SINGLE SHIFT THREE/SINGLE-SHIFT-3/SS3",
  "DEVICE CONTROL STRING/DCS", "PRIVATE USE ONE/PRIVATE USE-1/PU1",
  "PRIVATE USE TWO/PRIVATE USE-2/PU2", "SET TRANSMIT STATE/STS", "CANCEL CHARACTER/CCH",
  "MESSAGE WAITING/MW", "START OF GUARDED AREA/START OF PROTECTED AREA/SPA",
  "END OF GUARDED AREA/END OF PROTECTED AREA/EPA", "START OF STRING/SOS",
  "SINGLE GRAPHIC CHARACTER INTRODUCER/SGC", "SINGLE CHARACTER INTRODUCER/SCI",
  "CONTROL SEQUENCE INTRODUCER/CSI", "STRING TERMINATOR/ST", "OPERATING SYSTEM COMMAND/OSC",
  "PRIVACY MESSAGE/PM", "APPLICATION PROGRAM COMMAND/APC", "NBSP"]), (0xad, ["SHY"]),
  (0x1a2, ["LATIN CAPITAL LETTER GHA", "LATIN SMALL LETTER GHA"]), (0x34f, ["CGJ"]),
  (0x61c, ["ALM"]), (0x709, ["SYRIAC SUBLINEAR COLON SKEWED LEFT"]),
  (0xcde, ["KANNADA LETTER LLLA"]), (0xe9d, ["LAO LETTER FO FON"]), (0xe9f, ["LAO LETTER FO FAY"]),
  (0xea3, ["LAO LETTER RO"]), (0xea5, ["LAO LETTER LO"]),
  (0xfd0, ["TIBETAN MARK BKA- SHOG GI MGO RGYAN"]), (0x11ec, ["HANGUL JONGSEONG YESIEUNG-KIYEOK",
  "HANGUL JONGSEONG YESIEUNG-SSANGKIYEOK", "HANGUL JONGSEONG SSANGYESIEUNG",
  "HANGUL JONGSEONG YESIEUNG-KHIEUKH"]), (0x180b, ["FVS1", "FVS2", "FVS3", "MVS", "FVS4"]),
  (0x200b, ["ZWSP", "ZWNJ", "ZWJ", "LRM", "RLM"]), (0x202a, ["LRE", "RLE", "PDF", "LRO", "RLO",
  "NNBSP"]), (0x205f, ["MMSP", "WJ"]), (0x2066, ["LRI", "RLI", "FSI", "PDI"]),
  (0x2118, ["WEIERSTRASS ELLIPTIC FUNCTION"]), (0x2448, ["MICR ON US SYMBOL", "MICR DASH SYMBOL"]),
  (0x2b7a, ["LEFTWARDS TRIANGLE-HEADED ARROW WITH DOUBLE VERTICAL STROKE"]),
  (0x2b7c, ["RIGHTWARDS TRIANGLE-HEADED ARROW WITH DOUBLE VERTICAL STROKE"]),
  (0xa015, ["YI SYLLABLE ITERATION MARK"]), (0xaa6e, ["MYANMAR LETTER KHAMTI LLA"]),
  (0xfe18, ["PRESENTATION FORM FOR VERTICAL RIGHT WHITE LENTICULAR BRACKET"]),
  (0xfeff, ["BYTE ORDER MARK/BOM/ZWNBSP"]), (0x122d4, ["CUNEIFORM SIGN NU11 TENU",
  "CUNEIFORM SIGN NU11 OVER NU11 BUR OVER BUR"]), (0x16e56, ["MEDEFAIDRIN CAPITAL LETTER H",
  "MEDEFAIDRIN CAPITAL LETTER NG"]), (0x16e76, ["MEDEFAIDRIN SMALL LETTER H",
  "MEDEFAIDRIN SMALL LETTER NG"]), (0x1b001, ["HENTAIGANA LETTER E-1"]),
  (0x1d0c5, ["BYZANTINE MUSICAL SYMBOL FTHORA SKLIRON CHROMA VASIS"])]

def otherCode? (name : String) : Option Nat :=
  otherNames.findSome? fun (first, names) =>
    (names.findIdx? fun texts => (texts.splitOn "/").contains name).map (first + ·)

end Walkthrough.Text
