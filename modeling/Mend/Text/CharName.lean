import Mend.Text.CharName.OldScripts
import Mend.Text.CharName.Pictures
import Mend.Text.CharName.Scripts
import Mend.Text.CharName.Syllables
import Mend.Text.CharName.Symbols
import Mend.Text.Kind

/-!
Characters by their Unicode names. A table lists the names of characters that follow each other from
a code point on, broken into lines, with semicolons between them and `=` where there is none; what
several names have in common at the beginning stands once, before the rest of them in brackets.
-/

namespace Mend.Text.CharName

/-- Other names of characters, those of control characters among them. -/
def aliases : List (Nat × List String) := [
  (0x0, ["NULL;START OF [HEADING;TEXT];END OF [TEXT;TRANSMISSION];ENQUIRY;ACKNOWLEDGE;ALERT;",
    "BACKSPACE;CHARACTER TABULATION;LINE [FEED;TABULATION];FORM FEED;CARRIAGE RETURN;SHIFT [",
    "OUT;IN];DATA LINK ESCAPE;DEVICE CONTROL [ONE;TWO;THREE;FOUR];NEGATIVE ACKNOWLEDGE;",
    "SYNCHRONOUS IDLE;END OF TRANSMISSION BLOCK;CANCEL;END OF MEDIUM;SUBSTITUTE;ESCAPE;",
    "INFORMATION SEPARATOR [FOUR;THREE;TWO;ONE];SP"]),
  (0x7f, ["DELETE;PADDING CHARACTER;HIGH OCTET PRESET;BREAK PERMITTED HERE;NO BREAK HERE;INDEX;",
    "NEXT LINE;START OF SELECTED AREA;END OF SELECTED AREA;CHARACTER TABULATION [SET;WITH ",
    "JUSTIFICATION];LINE TABULATION SET;PARTIAL LINE [FORWARD;BACKWARD];REVERSE LINE FEED;",
    "SINGLE SHIFT [TWO;THREE];DEVICE CONTROL STRING;PRIVATE USE [ONE;TWO];SET TRANSMIT STATE;",
    "CANCEL CHARACTER;MESSAGE WAITING;START OF GUARDED AREA;END OF GUARDED AREA;START OF ",
    "STRING;SINGLE [GRAPHIC CHARACTER INTRODUCER;CHARACTER INTRODUCER];CONTROL SEQUENCE ",
    "INTRODUCER;STRING TERMINATOR;OPERATING SYSTEM COMMAND;PRIVACY MESSAGE;APPLICATION PROGRAM ",
    "COMMAND;NBSP"]),
  (0xad, ["SHY"]),
  (0x1a2, ["LATIN [CAPITAL LETTER GHA;SMALL LETTER GHA]"]),
  (0x34f, ["CGJ"]),
  (0x61c, ["ALM"]),
  (0x709, ["SYRIAC SUBLINEAR COLON SKEWED LEFT"]),
  (0xcde, ["KANNADA LETTER LLLA"]),
  (0xe9d, ["LAO LETTER FO [FON;=;FAY]"]),
  (0xea3, ["LAO LETTER [RO;=;LO]"]),
  (0xfd0, ["TIBETAN MARK BKA- SHOG GI MGO RGYAN"]),
  (0x11ec, ["HANGUL JONGSEONG [YESIEUNG-[KIYEOK;SSANGKIYEOK];SSANGYESIEUNG;YESIEUNG-KHIEUKH]"]),
  (0x180b, ["FVS[1;2;3];MVS;FVS4"]),
  (0x200b, ["ZWSP;ZWNJ;ZWJ;LRM;RLM"]),
  (0x202a, ["LRE;RLE;PDF;LRO;RLO;NNBSP"]),
  (0x205f, ["MMSP;WJ"]),
  (0x2066, ["LRI;RLI;FSI;PDI"]),
  (0x2118, ["WEIERSTRASS ELLIPTIC FUNCTION"]),
  (0x2448, ["MICR [ON US SYMBOL;DASH SYMBOL]"]),
  (0x2b7a, ["LEFTWARDS TRIANGLE-HEADED ARROW WITH DOUBLE VERTICAL STROKE;=;RIGHTWARDS ",
    "TRIANGLE-HEADED ARROW WITH DOUBLE VERTICAL STROKE"]),
  (0xa015, ["YI SYLLABLE ITERATION MARK"]),
  (0xaa6e, ["MYANMAR LETTER KHAMTI LLA"]),
  (0xfe00, ["VS[1;2;3;4;5;6;7;8;9;10;11;12;13;14;15;16]"]),
  (0xfe18, ["PRESENTATION FORM FOR VERTICAL RIGHT WHITE LENTICULAR BRACKET"]),
  (0xfeff, ["BYTE ORDER MARK"]),
  (0x122d4, ["CUNEIFORM SIGN NU11 [TENU;OVER NU11 BUR OVER BUR]"]),
  (0x16e56, ["MEDEFAIDRIN CAPITAL LETTER [H;NG]"]),
  (0x16e76, ["MEDEFAIDRIN SMALL LETTER [H;NG]"]),
  (0x1b001, ["HENTAIGANA LETTER E-1"]),
  (0x1d0c5, ["BYZANTINE MUSICAL SYMBOL FTHORA SKLIRON CHROMA VASIS"]),
  (0xe0100, ["VS[17;18;19;20;21;22;23;24;25;26;27;28;29;30;31;32;33;34;35;36;37;38;39;40;41;42;",
    "43;44;45;46;47;48;49;50;51;52;53;54;55;56;57;58;59;60;61;62;63;64;65;66;67;68;69;70;71;72;",
    "73;74;75;76;77;78;79;80;81;82;83;84;85;86;87;88;89;90;91;92;93;94;95;96;97;98;99;100;101;",
    "102;103;104;105;106;107;108;109;110;111;112;113;114;115;116;117;118;119;120;121;122;123;",
    "124;125;126;127;128;129;130;131;132;133;134;135;136;137;138;139;140;141;142;143;144;145;",
    "146;147;148;149;150;151;152;153;154;155;156;157;158;159;160;161;162;163;164;165;166;167;",
    "168;169;170;171;172;173;174;175;176;177;178;179;180;181;182;183;184;185;186;187;188;189;",
    "190;191;192;193;194;195;196;197;198;199;200;201;202;203;204;205;206;207;208;209;210;211;",
    "212;213;214;215;216;217;218;219;220;221;222;223;224;225;226;227;228;229;230;231;232;233;",
    "234;235;236;237;238;239;240;241;242;243;244;245;246;247;248;249;250;251;252;253;254;255;",
    "256]"]),
  (0x0, ["NUL;SOH;STX;ETX;EOT;ENQ;ACK;BEL;BS;HORIZONTAL TABULATION;NEW LINE;VERTICAL ",
    "TABULATION;FF;CR;LOCKING-SHIFT [ONE;ZERO];DLE;DC[1;2;3;4];NAK;SYN;ETB;CAN;EOM;SUB;ESC;",
    "FILE SEPARATOR;GROUP SEPARATOR;RECORD SEPARATOR;UNIT SEPARATOR"]),
  (0x7f, ["DEL;PAD;HOP;BPH;NBH;IND;NEL;SSA;ESA;HORIZONTAL TABULATION [SET;WITH JUSTIFICATION];",
    "VERTICAL TABULATION SET;PARTIAL LINE [DOWN;UP];REVERSE INDEX;SINGLE-SHIFT-[2;3];DCS;",
    "PRIVATE USE-[1;2];STS;CCH;MW;START OF PROTECTED AREA;END OF PROTECTED AREA;SOS;SGC;SCI;",
    "CSI;ST;OSC;PM;APC"]),
  (0xfeff, ["BOM"]),
  (0x9, ["HT;END OF LINE;VT;=;=;SO;SI"]),
  (0x1c, ["FS;GS;RS;US"]),
  (0x88, ["HTS;HTJ;VTS;PLD;PLU;RI;SS2;SS3;=;PU1;PU2"]),
  (0x96, ["SPA;EPA"]),
  (0xfeff, ["ZWNBSP"]),
  (0x9, ["TAB;EOL"]),
  (0xa, ["LF"]),
  (0xa, ["NL"])]

def tables : List (Nat × List String) :=
  scripts ++ symbols ++ syllables ++ oldScripts ++ pictures ++ aliases

/-- The names of a table. `name` has been read of the next one, last character first, and `outer`
are the beginnings that names have in common, the innermost first. -/
def listed (name : List Char) (outer : List (List Char)) : List Char → List (List Char)
  | [] => [name.reverse]
  | ';' :: cs => name.reverse :: listed (outer.head?.getD []) outer cs
  | '[' :: cs => listed name (name :: outer) cs
  | ']' :: cs => listed name outer.tail cs
  | c :: cs => listed (c :: name) outer cs

def inTables? (name : List Char) : Option Nat :=
  tables.findSome? fun (first, names) =>
    ((listed [] [] (names.flatMap String.toList)).idxOf? name).map (first + ·)

def upperHex? (c : Char) : Option Nat :=
  if c.isDigit then some (c.toNat - 48)
  else if 'A' ≤ c && c ≤ 'F' then some (c.toNat - 55)
  else none

def behind? (start : String) (name : List Char) : Option (List Char) :=
  if start.toList.isPrefixOf name then some (name.drop start.length) else none

def ideographs : List (Nat × Nat) :=
  [(0x3400, 0x4dbf), (0x4e00, 0x9fff), (0x20000, 0x2a6df), (0x2a700, 0x2b738), (0x2b740, 0x2b81d),
   (0x2b820, 0x2cea1), (0x2ceb0, 0x2ebe0), (0x30000, 0x3134a)]

/-- Other names that end in the number of the character, with the ranges of these characters. -/
def numbered : List (String × List (Nat × Nat)) :=
  [("CJK COMPATIBILITY IDEOGRAPH-", [(0xf900, 0xfa6d), (0xfa70, 0xfad9), (0x2f800, 0x2fa1d)]),
   ("KHITAN SMALL SCRIPT CHARACTER-", [(0x18b00, 0x18cd5)]),
   ("NUSHU CHARACTER-", [(0x1b170, 0x1b2fb)])]

def byNumber? (start : String) (ranges : List (Nat × Nat)) (name : List Char) : Option Nat := do
  let digits ← behind? start name
  let n := (← digits.mapM upperHex?).foldl (fun n d => 16 * n + d) 0
  if (digits.length = 4 ∨ digits.length = 5) ∧ within ranges n then some n else none

def ideograph? (name : List Char) : Option Nat :=
  byNumber? "CJK UNIFIED IDEOGRAPH-" ideographs name

def numbered? (name : List Char) : Option Nat :=
  numbered.findSome? fun (start, ranges) => do
    let digits ← behind? start name
    if digits.head? = some '0' then none else byNumber? start ranges name

def leads : List String :=
  ["G", "GG", "N", "D", "DD", "R", "M", "B", "BB", "S", "SS", "", "J", "JJ", "C", "K", "T", "P", "H"]

def vowels : List String :=
  ["A", "AE", "YA", "YAE", "EO", "E", "YEO", "YE", "O", "WA", "WAE", "OE", "YO", "U", "WEO", "WE",
   "WI", "YU", "EU", "YI", "I"]

def tails : List String :=
  ["", "G", "GG", "GS", "N", "NJ", "NH", "D", "L", "LG", "LM", "LB", "LS", "LT", "LP", "LH", "M",
   "B", "BS", "S", "SS", "NG", "J", "C", "K", "T", "P", "H"]

def syllable? (name : List Char) : Option Nat := do
  let rest ← behind? "HANGUL SYLLABLE " name
  let isVowel (c : Char) : Bool := "AEIOUWY".toList.contains c
  let lead := rest.takeWhile (!isVowel ·)
  let rest := rest.dropWhile (!isVowel ·)
  let l ← leads.idxOf? (.ofList lead)
  let v ← vowels.idxOf? (.ofList (rest.takeWhile isVowel))
  let t ← tails.idxOf? (.ofList (rest.dropWhile isVowel))
  return 0xac00 + (l * 21 + v) * 28 + t

def isNameChar (c : Char) : Bool := c.isUpper || c.isDigit || c == ' ' || c == '-'

end CharName

/-- The character of a name. The ideographs and the syllables of Hangul have to be named in capital
letters. -/
def charNamed? (name : String) : Option Char :=
  let upper := name.toList.map Char.toUpper
  if upper.all CharName.isNameChar then
    let found :=
      [CharName.syllable? name.toList, CharName.ideograph? name.toList, CharName.numbered? upper,
        CharName.inTables? upper]
    (found.findSome? id).map Char.ofNat
  else none

end Mend.Text
