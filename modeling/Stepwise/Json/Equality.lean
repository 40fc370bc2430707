import Stepwise.Json.Basic

namespace Stepwise.Json

mutual

def alike : Json → Json → Bool
  | .null, .null => true
  | .bool a, .bool b => a == b
  | .num a, .num b => a.toDouble.same b.toDouble
  | .str a, .str b => a == b
  | .arr as, .arr bs => as.length == bs.length && alikeItems as bs
  | .obj as, .obj bs => as.length == bs.length && alikeFields as bs
  | _, _ => false

/-- Items at equal positions are alike. -/
def alikeItems : List Json → List Json → Bool
  | a :: as, b :: bs => alike a b && alikeItems as bs
  | _, _ => true

/-- Every field has a field of the same key that is alike. -/
def alikeFields : List (String × Json) → List (String × Json) → Bool
  | [], _ => true
  | (key, a) :: as, bs =>
    (match Entries.get? bs key with
      | some b => alike a b
      | none => false) && alikeFields as bs

end

end Stepwise.Json
