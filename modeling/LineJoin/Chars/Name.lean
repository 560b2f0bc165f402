import LineJoin.Chars.Span

/-!
# Character names

The names of seven bit characters and of the signs used most between them and ideographs, and the
names of ideographs, which are made from their numbers. Names ignore case.
-/

namespace LineJoin

def readName (entry : List Char) : String × Nat :=
  match cutAt '=' entry with
  | [number, name] => (String.ofList name, Span.hexNumber number)
  | _ => ("", 0)

def readNames (lines : List String) : List (String × Nat) :=
  lines.flatMap fun line => (cutAt ';' line.toList).map readName

def characterNames : List (String × Nat) := readNames
  ["20=SPACE;21=EXCLAMATION MARK;22=QUOTATION MARK;23=NUMBER SIGN;24=DOLLAR SIGN;",
    "25=PERCENT SIGN;26=AMPERSAND;27=APOSTROPHE;28=LEFT PARENTHESIS;29=RIGHT PARENTHESIS;",
    "2A=ASTERISK;2B=PLUS SIGN;2C=COMMA;2D=HYPHEN-MINUS;2E=FULL STOP;2F=SOLIDUS;30=DIGIT ZERO;",
    "31=DIGIT ONE;32=DIGIT TWO;33=DIGIT THREE;34=DIGIT FOUR;35=DIGIT FIVE;36=DIGIT SIX;",
    "37=DIGIT SEVEN;38=DIGIT EIGHT;39=DIGIT NINE;3A=COLON;3B=SEMICOLON;3C=LESS-THAN SIGN;",
    "3D=EQUALS SIGN;3E=GREATER-THAN SIGN;3F=QUESTION MARK;40=COMMERCIAL AT;",
    "41=LATIN CAPITAL LETTER A;42=LATIN CAPITAL LETTER B;43=LATIN CAPITAL LETTER C;",
    "44=LATIN CAPITAL LETTER D;45=LATIN CAPITAL LETTER E;46=LATIN CAPITAL LETTER F;",
    "47=LATIN CAPITAL LETTER G;48=LATIN CAPITAL LETTER H;49=LATIN CAPITAL LETTER I;",
    "4A=LATIN CAPITAL LETTER J;4B=LATIN CAPITAL LETTER K;4C=LATIN CAPITAL LETTER L;",
    "4D=LATIN CAPITAL LETTER M;4E=LATIN CAPITAL LETTER N;4F=LATIN CAPITAL LETTER O;",
    "50=LATIN CAPITAL LETTER P;51=LATIN CAPITAL LETTER Q;52=LATIN CAPITAL LETTER R;",
    "53=LATIN CAPITAL LETTER S;54=LATIN CAPITAL LETTER T;55=LATIN CAPITAL LETTER U;",
    "56=LATIN CAPITAL LETTER V;57=LATIN CAPITAL LETTER W;58=LATIN CAPITAL LETTER X;",
    "59=LATIN CAPITAL LETTER Y;5A=LATIN CAPITAL LETTER Z;5B=LEFT SQUARE BRACKET;",
    "5C=REVERSE SOLIDUS;5D=RIGHT SQUARE BRACKET;5E=CIRCUMFLEX ACCENT;5F=LOW LINE;60=GRAVE ACCENT;",
    "61=LATIN SMALL LETTER A;62=LATIN SMALL LETTER B;63=LATIN SMALL LETTER C;",
    "64=LATIN SMALL LETTER D;65=LATIN SMALL LETTER E;66=LATIN SMALL LETTER F;",
    "67=LATIN SMALL LETTER G;68=LATIN SMALL LETTER H;69=LATIN SMALL LETTER I;",
    "6A=LATIN SMALL LETTER J;6B=LATIN SMALL LETTER K;6C=LATIN SMALL LETTER L;",
    "6D=LATIN SMALL LETTER M;6E=LATIN SMALL LETTER N;6F=LATIN SMALL LETTER O;",
    "70=LATIN SMALL LETTER P;71=LATIN SMALL LETTER Q;72=LATIN SMALL LETTER R;",
    "73=LATIN SMALL LETTER S;74=LATIN SMALL LETTER T;75=LATIN SMALL LETTER U;",
    "76=LATIN SMALL LETTER V;77=LATIN SMALL LETTER W;78=LATIN SMALL LETTER X;",
    "79=LATIN SMALL LETTER Y;7A=LATIN SMALL LETTER Z;7B=LEFT CURLY BRACKET;7C=VERTICAL LINE;",
    "7D=RIGHT CURLY BRACKET;7E=TILDE;A0=NO-BREAK SPACE;AD=SOFT HYPHEN;200B=ZERO WIDTH SPACE;",
    "200C=ZERO WIDTH NON-JOINER;200D=ZERO WIDTH JOINER;2028=LINE SEPARATOR;",
    "2029=PARAGRAPH SEPARATOR;20E3=COMBINING ENCLOSING KEYCAP;3000=IDEOGRAPHIC SPACE;",
    "3001=IDEOGRAPHIC COMMA;3002=IDEOGRAPHIC FULL STOP;FE0F=VARIATION SELECTOR-16;",
    "FEFF=ZERO WIDTH NO-BREAK SPACE;1F600=GRINNING FACE;0=NULL;8=BACKSPACE;",
    "9=CHARACTER TABULATION;9=TAB;A=LINE FEED;A=NEW LINE;C=FORM FEED;D=CARRIAGE RETURN;1B=ESCAPE;",
    "7F=DELETE;85=NEXT LINE"]

/-- The unified ideographs that are named by number. -/
def ideographSpans : List Span :=
  [⟨0x3400, 0x4DBF⟩, ⟨0x4E00, 0x9FFC⟩, ⟨0x20000, 0x2A6DD⟩, ⟨0x2A700, 0x2B734⟩,
    ⟨0x2B740, 0x2B81D⟩, ⟨0x2B820, 0x2CEA1⟩, ⟨0x2CEB0, 0x2EBE0⟩, ⟨0x30000, 0x3134A⟩]

def ideograph? (digits : List Char) : Option Nat :=
  let n := Span.hexNumber digits
  if (digits.length == 4 || digits.length == 5) && digits.all (Span.hexValue? · |>.isSome) &&
      Span.covers ideographSpans n then some n
  else none

/-- The code point of a name. -/
def characterNamed? (name : List Char) : Option Nat :=
  let key := name.map Char.toUpper
  let start := "CJK UNIFIED IDEOGRAPH-".toList
  match characterNames.lookup (String.ofList key) with
  | some n => some n
  | none => if start.isPrefixOf key then ideograph? (key.drop start.length) else none

end LineJoin
