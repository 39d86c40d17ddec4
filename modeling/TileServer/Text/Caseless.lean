namespace TileServer.Text

def folded (text : String) : List Char :=
  text.toList.map Char.toLower

def sameFolded (left right : String) : Bool :=
  folded left == folded right

/-- The lower case of a character as far as a keyword of ASCII letters can show it. The Kelvin sign
is the one character outside ASCII whose lower case is an ASCII letter. -/
def lowercase (c : Char) : Char :=
  if c.toNat == 0x212a then 'k' else c.toLower

def spells (keyword text : List Char) : Bool :=
  text.map lowercase == keyword

end TileServer.Text
