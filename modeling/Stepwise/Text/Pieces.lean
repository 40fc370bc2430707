namespace Stepwise.Text

/-- The pieces of a text between the occurrences of a separator; there is always one. -/
def splitOn (separator : Char) : List Char → List (List Char)
  | [] => [[]]
  | c :: rest =>
    if c = separator then [] :: splitOn separator rest
    else
      match splitOn separator rest with
      | [] => [[c]]
      | piece :: pieces => (c :: piece) :: pieces

/-- The text before the first occurrence of a separator, and the text after it when there is one. -/
def splitOnce (separator : Char) : List Char → List Char × Option (List Char)
  | [] => ([], none)
  | c :: rest =>
    if c = separator then ([], some rest)
    else
      let (head, tail) := splitOnce separator rest
      (c :: head, tail)

/-- The first piece is what stands before the first separator, the others are the pieces of the
rest. -/
theorem splitOn_eq_splitOnce (separator : Char) (s : List Char) :
    splitOn separator s =
      (splitOnce separator s).1 :: ((splitOnce separator s).2.map (splitOn separator)).getD [] := by
  induction s with
  | nil => rfl
  | cons c rest ih =>
    simp only [splitOn, splitOnce]
    split
    · simp
    · simp [ih]

/-- The text after `head`, when the text starts with it. -/
def after? : (head text : List Char) → Option (List Char)
  | [], text => some text
  | _ :: _, [] => none
  | c :: head, d :: text => if c = d then after? head text else none

/-- The text before `tail`, when the text ends with it. -/
def before? (tail text : List Char) : Option (List Char) :=
  (after? tail.reverse text.reverse).map List.reverse

/-- A byte order mark may stand before a text. -/
def afterMark : List Char → List Char
  | c :: rest => if c.toNat = 0xFEFF then rest else c :: rest
  | [] => []

def startsWith (text head : String) : Bool := head.toList.isPrefixOf text.toList

def endsWith (text tail : String) : Bool := tail.toList.isSuffixOf text.toList

def occursIn (part : List Char) : List Char → Bool
  | [] => part.isEmpty
  | c :: rest => part.isPrefixOf (c :: rest) || occursIn part rest

def contains (text part : String) : Bool := occursIn part.toList text.toList

end Stepwise.Text
