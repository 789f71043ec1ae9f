import CssColor.Declaration.Pattern

/-!
# The grammar of colour declarations

A declaration is a property name, a colon and a colour token, with blanks
around the colon; a semicolon or a closing brace must stand somewhere behind it.

- `Grammar.lead`: the property name up to the start of the token.
- `Grammar.colorWords`: the words that are a colour token.
- `Grammar.Shape`: the shapes of a colour token.
- `Grammar.standard`: the shapes in the order in which they are tried.
-/

namespace CssColor

namespace Grammar

/-! ## What stands before the token -/

/-- Blanks of a stylesheet. -/
def blanks : Pattern :=
  Pattern.many isCssBlank

/-- A property name: two hyphens and name characters, or letters and hyphens. -/
def propertyName : Pattern :=
  (Pattern.word "--".toList |>.andThen (Pattern.some isNameChar)).orElse
    (Pattern.some isPropertyChar)

/-- A property name and its colon, up to the token. -/
def lead : Pattern :=
  propertyName.andThen <| blanks.andThen <| (Pattern.char (· == ':')).andThen blanks

/-! ## Tokens -/

/-- The words that name a colour, and the one for no colour at all. -/
def wordNames : List String :=
  ["aliceblue", "antiquewhite", "aqua", "aquamarine", "azure", "beige", "bisque", "black",
   "blanchedalmond", "blue", "blueviolet", "brown", "burlywood", "cadetblue", "chartreuse",
   "chocolate", "coral", "cornflowerblue", "cornsilk", "crimson", "cyan", "darkblue", "darkcyan",
   "darkgoldenrod", "darkgray", "darkgreen", "darkgrey", "darkkhaki", "darkmagenta",
   "darkolivegreen", "darkorange", "darkorchid", "darkred", "darksalmon", "darkseagreen",
   "darkslateblue", "darkslategray", "darkslategrey", "darkturquoise", "darkviolet", "deeppink",
   "deepskyblue", "dimgray", "dimgrey", "dodgerblue", "firebrick", "floralwhite", "forestgreen",
   "fuchsia", "gainsboro", "ghostwhite", "gold", "goldenrod", "gray", "green", "greenyellow",
   "grey", "honeydew", "hotpink", "indianred", "indigo", "ivory", "khaki", "lavender",
   "lavenderblush", "lawngreen", "lemonchiffon", "lightblue", "lightcoral", "lightcyan",
   "lightgoldenrodyellow", "lightgray", "lightgreen", "lightgrey", "lightpink", "lightsalmon",
   "lightseagreen", "lightskyblue", "lightslategray", "lightslategrey", "lightsteelblue",
   "lightyellow", "lime", "limegreen", "linen", "magenta", "maroon", "mediumaquamarine",
   "mediumblue", "mediumorchid", "mediumpurple", "mediumseagreen", "mediumslateblue",
   "mediumspringgreen", "mediumturquoise", "mediumvioletred", "midnightblue", "mintcream",
   "mistyrose", "moccasin", "navajowhite", "navy", "oldlace", "olive", "olivedrab", "orange",
   "orangered", "orchid", "palegoldenrod", "palegreen", "paleturquoise", "palevioletred",
   "papayawhip", "peachpuff", "peru", "pink", "plum", "powderblue", "purple", "rebeccapurple",
   "red", "rosybrown", "royalblue", "saddlebrown", "salmon", "sandybrown", "seagreen", "seashell",
   "sienna", "silver", "skyblue", "slateblue", "slategray", "slategrey", "snow", "springgreen",
   "steelblue", "tan", "teal", "thistle", "tomato", "turquoise", "violet", "wheat", "white",
   "whitesmoke", "yellow", "yellowgreen", "transparent"]

/-- These words as texts. -/
def colorWords : List Text :=
  wordNames.map String.toList

/-- No character of a class comes next. -/
def notNext (p : Char → Bool) (t : Text) : Bool :=
  !t.head?.any p

/-- One of some names; no name character follows it. -/
def named (names : List Text) : Pattern :=
  (Pattern.anyOf (names.map Pattern.word)).andThen (Pattern.ahead (notNext isNameChar))

/-- A hash and three, four, six or eight hexadecimal digits; no word character follows them. -/
def hexLiteral : Pattern :=
  (Pattern.char (· == '#')).andThen <|
    (Pattern.anyOf ([4, 3, 6, 8].map (Pattern.times isHexDigit))).andThen
      (Pattern.ahead (notNext isWordChar))

/-- One to three digits. -/
def byteNumber : Pattern :=
  Pattern.anyOf ([3, 2, 1].map (Pattern.times isAsciiDigit))

/-- A comma with blanks around it, or blanks alone. -/
def byteSeparator : Pattern :=
  (blanks.andThen <| (Pattern.char (· == ',')).andThen blanks).orElse (Pattern.some isCssBlank)

/-- An alpha after a slash or a comma: a digit, a point, digits and a percent sign, of which only
the digits at the end must be there. -/
def byteAlpha : Pattern :=
  blanks.andThen <| (Pattern.char fun c => c == '/' || c == ',').andThen <|
    blanks.andThen <| (Pattern.maybe (Pattern.char isAsciiDigit)).andThen <|
      (Pattern.maybe (Pattern.char (· == '.'))).andThen <|
        (Pattern.some isAsciiDigit).andThen <| Pattern.maybe (Pattern.char (· == '%'))

/-- The function `rgb` or `rgba` with three whole numbers and an optional alpha. -/
def byteRgb : Pattern :=
  (Pattern.word "rgb".toList).andThen <| (Pattern.maybe (Pattern.word "a".toList)).andThen <|
    (Pattern.char (· == '(')).andThen <| blanks.andThen <|
      byteNumber.andThen <| byteSeparator.andThen <| byteNumber.andThen <|
        byteSeparator.andThen <| byteNumber.andThen <| (Pattern.maybe byteAlpha).andThen <|
          blanks.andThen <| Pattern.char (· == ')')

/-- The names of the colour functions. -/
def functionNames : List Text :=
  ["rgb".toList, "rgba".toList, "hsl".toList, "hsla".toList, "hwb".toList, "lab".toList,
   "lch".toList, "oklab".toList, "oklch".toList, "color".toList]

/-- A colour function with anything but a closing parenthesis between its parentheses. -/
def function : Pattern :=
  (Pattern.anyOf (functionNames.map Pattern.word)).andThen <|
    (Pattern.char (· == '(')).andThen <| (Pattern.many (· != ')')).andThen <|
      Pattern.char (· == ')')

/-- The shapes of a colour token. -/
inductive Shape where
  | named (names : List Text)
  | hexLiteral
  | byteRgb
  | function

/-- The pattern of a shape. -/
def Shape.pattern : Shape → Pattern
  | .named names => Grammar.named names
  | .hexLiteral => Grammar.hexLiteral
  | .byteRgb => Grammar.byteRgb
  | .function => Grammar.function

/-- All colour words, longer ones first. -/
def tokenNames : List Text :=
  colorWords.mergeSort fun a b => b.length ≤ a.length

/-- The shapes of a colour token in the order in which they are tried. -/
def standard : List Shape :=
  [.named tokenNames, .hexLiteral, .byteRgb, .function]

/-- The pattern of a colour token of one of some shapes. -/
def token (shapes : List Shape) : Pattern :=
  Pattern.anyOf (shapes.map Shape.pattern)

/-- A semicolon or a closing brace stands somewhere in the text. -/
def isTerminated (t : Text) : Bool :=
  t.any fun c => c == ';' || c == '\x7d'

end Grammar

end CssColor
