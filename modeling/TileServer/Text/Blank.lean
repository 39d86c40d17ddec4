namespace TileServer.Text

def isBlank (c : Char) : Bool :=
  let n := c.toNat
  (0x09 ≤ n && n ≤ 0x0d) || n == 0x20 || n == 0x85 || n == 0xa0 || n == 0x1680 ||
    (0x2000 ≤ n && n ≤ 0x200a) || n == 0x2028 || n == 0x2029 || n == 0x202f || n == 0x205f ||
    n == 0x3000

def trim (text : List Char) : List Char :=
  ((text.dropWhile isBlank).reverse.dropWhile isBlank).reverse

/-- Cuts a text at every character that `stop` marks; the marks themselves are dropped, so a text
with `n` of them has `n + 1` pieces. -/
def pieces (stop : Char → Bool) (text : List Char) : List (List Char) :=
  text.foldr
    (fun c cut =>
      if stop c then [] :: cut
      else match cut with
        | [] => [[c]]
        | piece :: rest => (c :: piece) :: rest)
    [[]]

def words (text : List Char) : List (List Char) :=
  (pieces isBlank text).filter (fun word => !word.isEmpty)

def joined (parts : List (List Char)) : List Char :=
  List.intercalate [' '] parts

end TileServer.Text
