import Mend.Number.Whole
import Mend.Text.Lines
import Mend.Text.Lowercase

namespace Mend

inductive Shade
  | default
  /-- One of the sixteen colors. -/
  | numbered (n : Nat)
  deriving DecidableEq, Repr

structure Color where
  /-- The color as it is written. -/
  name : String
  shade : Shade
  deriving DecidableEq, Repr

namespace Color

def ownNames : List String :=
  ["black", "red", "green", "yellow", "blue", "magenta", "cyan", "white", "bright_black",
   "bright_red", "bright_green", "bright_yellow", "bright_blue", "bright_magenta", "bright_cyan",
   "bright_white"]

def moreNames : List (String × Nat) :=
  [("grey0", 16), ("gray0", 16), ("navy_blue", 17), ("dark_blue", 18), ("blue3", 20), ("blue1", 21),
   ("dark_green", 22), ("deep_sky_blue4", 25), ("dodger_blue3", 26), ("dodger_blue2", 27),
   ("green4", 28), ("spring_green4", 29), ("turquoise4", 30), ("deep_sky_blue3", 32),
   ("dodger_blue1", 33), ("green3", 40), ("spring_green3", 41), ("dark_cyan", 36),
   ("light_sea_green", 37), ("deep_sky_blue2", 38), ("deep_sky_blue1", 39), ("spring_green2", 47),
   ("cyan3", 43), ("dark_turquoise", 44), ("turquoise2", 45), ("green1", 46), ("spring_green1", 48),
   ("medium_spring_green", 49), ("cyan2", 50), ("cyan1", 51), ("dark_red", 88), ("deep_pink4", 125),
   ("purple4", 55), ("purple3", 56), ("blue_violet", 57), ("orange4", 94), ("grey37", 59),
   ("gray37", 59), ("medium_purple4", 60), ("slate_blue3", 62), ("royal_blue1", 63),
   ("chartreuse4", 64), ("dark_sea_green4", 71), ("pale_turquoise4", 66), ("steel_blue", 67),
   ("steel_blue3", 68), ("cornflower_blue", 69), ("chartreuse3", 76), ("cadet_blue", 73),
   ("sky_blue3", 74), ("steel_blue1", 81), ("pale_green3", 114), ("sea_green3", 78),
   ("aquamarine3", 79), ("medium_turquoise", 80), ("chartreuse2", 112), ("sea_green2", 83),
   ("sea_green1", 85), ("aquamarine1", 122), ("dark_slate_gray2", 87), ("dark_magenta", 91),
   ("dark_violet", 128), ("purple", 129), ("light_pink4", 95), ("plum4", 96),
   ("medium_purple3", 98), ("slate_blue1", 99), ("yellow4", 106), ("wheat4", 101), ("grey53", 102),
   ("gray53", 102), ("light_slate_grey", 103), ("light_slate_gray", 103), ("medium_purple", 104),
   ("light_slate_blue", 105), ("dark_olive_green3", 149), ("dark_sea_green", 108),
   ("light_sky_blue3", 110), ("sky_blue2", 111), ("dark_sea_green3", 150),
   ("dark_slate_gray3", 116), ("sky_blue1", 117), ("chartreuse1", 118), ("light_green", 120),
   ("pale_green1", 156), ("dark_slate_gray1", 123), ("red3", 160), ("medium_violet_red", 126),
   ("magenta3", 164), ("dark_orange3", 166), ("indian_red", 167), ("hot_pink3", 168),
   ("medium_orchid3", 133), ("medium_orchid", 134), ("medium_purple2", 140),
   ("dark_goldenrod", 136), ("light_salmon3", 173), ("rosy_brown", 138), ("grey63", 139),
   ("gray63", 139), ("medium_purple1", 141), ("gold3", 178), ("dark_khaki", 143),
   ("navajo_white3", 144), ("grey69", 145), ("gray69", 145), ("light_steel_blue3", 146),
   ("light_steel_blue", 147), ("yellow3", 184), ("dark_sea_green2", 157), ("light_cyan3", 152),
   ("light_sky_blue1", 153), ("green_yellow", 154), ("dark_olive_green2", 155),
   ("dark_sea_green1", 193), ("pale_turquoise1", 159), ("deep_pink3", 162), ("magenta2", 200),
   ("hot_pink2", 169), ("orchid", 170), ("medium_orchid1", 207), ("orange3", 172),
   ("light_pink3", 174), ("pink3", 175), ("plum3", 176), ("violet", 177), ("light_goldenrod3", 179),
   ("tan", 180), ("misty_rose3", 181), ("thistle3", 182), ("plum2", 183), ("khaki3", 185),
   ("light_goldenrod2", 222), ("light_yellow3", 187), ("grey84", 188), ("gray84", 188),
   ("light_steel_blue1", 189), ("yellow2", 190), ("dark_olive_green1", 192), ("honeydew2", 194),
   ("light_cyan1", 195), ("red1", 196), ("deep_pink2", 197), ("deep_pink1", 199), ("magenta1", 201),
   ("orange_red1", 202), ("indian_red1", 204), ("hot_pink", 206), ("dark_orange", 208),
   ("salmon1", 209), ("light_coral", 210), ("pale_violet_red1", 211), ("orchid2", 212),
   ("orchid1", 213), ("orange1", 214), ("sandy_brown", 215), ("light_salmon1", 216),
   ("light_pink1", 217), ("pink1", 218), ("plum1", 219), ("gold1", 220), ("navajo_white1", 223),
   ("misty_rose1", 224), ("thistle1", 225), ("yellow1", 226), ("light_goldenrod1", 227),
   ("khaki1", 228), ("wheat1", 229), ("cornsilk1", 230), ("grey100", 231), ("gray100", 231),
   ("grey3", 232), ("gray3", 232), ("grey7", 233), ("gray7", 233), ("grey11", 234), ("gray11", 234),
   ("grey15", 235), ("gray15", 235), ("grey19", 236), ("gray19", 236), ("grey23", 237),
   ("gray23", 237), ("grey27", 238), ("gray27", 238), ("grey30", 239), ("gray30", 239),
   ("grey35", 240), ("gray35", 240), ("grey39", 241), ("gray39", 241), ("grey42", 242),
   ("gray42", 242), ("grey46", 243), ("gray46", 243), ("grey50", 244), ("gray50", 244),
   ("grey54", 245), ("gray54", 245), ("grey58", 246), ("gray58", 246), ("grey62", 247),
   ("gray62", 247), ("grey66", 248), ("gray66", 248), ("grey70", 249), ("gray70", 249),
   ("grey74", 250), ("gray74", 250), ("grey78", 251), ("gray78", 251), ("grey82", 252),
   ("gray82", 252), ("grey85", 253), ("gray85", 253), ("grey89", 254), ("gray89", 254),
   ("grey93", 255), ("gray93", 255)]

def number? (name : String) : Option Nat :=
  if ownNames.contains name then some (ownNames.idxOf name) else moreNames.lookup name

structure Rgb where
  red : Nat
  green : Nat
  blue : Nat
  deriving DecidableEq, Repr

def palette : List Rgb :=
  [⟨0, 0, 0⟩, ⟨170, 0, 0⟩, ⟨0, 170, 0⟩, ⟨170, 85, 0⟩, ⟨0, 0, 170⟩, ⟨170, 0, 170⟩, ⟨0, 170, 170⟩,
   ⟨170, 170, 170⟩, ⟨85, 85, 85⟩, ⟨255, 85, 85⟩, ⟨85, 255, 85⟩, ⟨255, 255, 85⟩, ⟨85, 85, 255⟩,
   ⟨255, 85, 255⟩, ⟨85, 255, 255⟩, ⟨255, 255, 255⟩]

def level (n : Nat) : Nat := if n = 0 then 0 else 55 + 40 * n

/-- The components of a color with a number from 16 to 255: a cube of six steps a side, then grays. -/
def Rgb.ofNumber (n : Nat) : Rgb :=
  if n < 232 then ⟨level ((n - 16) / 36), level ((n - 16) / 6 % 6), level ((n - 16) % 6)⟩
  else ⟨8 + 10 * (n - 232), 8 + 10 * (n - 232), 8 + 10 * (n - 232)⟩

def apart (m n : Nat) : Nat := max m n - min m n

/-- The distance of two colors to the eye, squared. -/
def Rgb.distance (a b : Rgb) : Nat :=
  let mean := (a.red + b.red) / 2
  let red := apart a.red b.red
  let green := apart a.green b.green
  let blue := apart a.blue b.blue
  (512 + mean) * red * red / 256 + 4 * green * green + (767 - mean) * blue * blue / 256

def Rgb.nearestFrom (c : Rgb) (best least n : Nat) : List Rgb → Nat
  | [] => best
  | p :: ps =>
    if c.distance p < least then c.nearestFrom n (c.distance p) (n + 1) ps
    else c.nearestFrom best least (n + 1) ps

def Rgb.shade (c : Rgb) : Shade := .numbered (c.nearestFrom 0 (c.distance ⟨0, 0, 0⟩) 0 palette)

def shadeOfNumber (n : Nat) : Shade := if n < 16 then .numbered n else (Rgb.ofNumber n).shade

inductive Fault
  | noDigits
  | tooManyDigits (digits : Nat)
  deriving DecidableEq, Repr

def Fault.message : Fault → String
  | noDigits => "invalid literal for int() with base 10: ''"
  | tooManyDigits n => (Json.ReadError.tooManyDigits n).message

def component (cs : List Char) : Except Fault Nat :=
  if cs.isEmpty then .error .noDigits
  else if Json.maxDigits < cs.length then .error (.tooManyDigits cs.length)
  else .ok ((Whole.nat? cs).getD 0)

def inside? (opening cs : List Char) : Option (List Char) :=
  if opening.isPrefixOf cs && cs.getLast? == some ')' then
    some ((cs.drop opening.length).dropLast)
  else none

def hexPair (a b : Char) : Option Nat := do return 16 * (← Json.hexValue? a) + (← Json.hexValue? b)

def ofHex? : List Char → Option Shade
  | ['#', a, b, c, d, e, f] => do
    return (Rgb.mk (← hexPair a b) (← hexPair c d) (← hexPair e f)).shade
  | _ => none

def ofNumbered? (cs : List Char) : Option Shade := do
  let ds ← inside? "color(".toList cs
  if ds.all Char.isDigit && !ds.isEmpty && ds.length ≤ 3 then
    let n ← Whole.nat? ds
    if n ≤ 255 then some (shadeOfNumber n) else none
  else none

def ofComponents (cs : List Char) : Except Fault (Option Shade) :=
  match inside? "rgb(".toList cs with
  | none => .ok none
  | some ds =>
    if ds.isEmpty || !ds.all (fun c => c == ',' || (Text.digit? c).isSome) then .ok none
    else match Lines.split ',' ds with
      | [r, g, b] => do
        let c : Rgb := ⟨← component r, ← component g, ← component b⟩
        return if max c.red (max c.green c.blue) ≤ 255 then some c.shade else none
      | _ => .ok none

def read (word : List Char) : Except Fault (Option Color) := do
  let cs := Text.lowerList word
  let name := String.ofList cs
  let named : Option Shade := if name = "default" then some .default else (number? name).map shadeOfNumber
  let shade ← match named <|> ofHex? cs <|> ofNumbered? cs with
    | some s => .ok (some s)
    | none => ofComponents cs
  return shade.map fun s => ⟨name, s⟩

def named (n : Nat) : Color := ⟨(ownNames[n]?).getD "", .numbered n⟩

def red : Color := named 1

def green : Color := named 2

def yellow : Color := named 3

def cyan : Color := named 6

def code (c : Color) : Nat :=
  match c.shade with
  | .default => 39
  | .numbered n => if n < 8 then 30 + n else 82 + n

def backgroundCode (c : Color) : Nat := c.code + 10

end Color

end Mend
