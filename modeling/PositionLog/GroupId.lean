/-! # Consumer group names

A consumer that should see a whole log joins a group that nobody joined before. Such groups are
named like random UUIDs: version 4, variant 1.
-/

namespace PositionLog.GroupId

def digits : List Char := "0123456789abcdef".toList

/-- The last `width` hexadecimal digits of `n`, the most significant first. -/
def hex : (width n : Nat) → List Char
  | 0, _ => []
  | width + 1, n => digits.getD ((n >>> (4 * width)) % 16) '0' :: hex width n

/-- The `n`th group name. -/
def name (n : Nat) : String :=
  let d := hex 30 n
  String.ofList <| d.take 8 ++ '-' :: (d.drop 8).take 4 ++ "-4".toList ++ (d.drop 12).take 3 ++
    "-8".toList ++ (d.drop 15).take 3 ++ '-' :: d.drop 18

/-- What may stand at each place of a group name. -/
def shape : List (Char → Bool) :=
  let digits := fun n => List.replicate n (digits.contains ·)
  let just := fun c : Char => [(· == c)]
  digits 8 ++ just '-' ++ digits 4 ++ just '-' ++ just '4' ++ digits 3 ++ just '-' ++
    [("89ab".toList.contains ·)] ++ digits 3 ++ just '-' ++ digits 12

def fits (ps : List (Char → Bool)) (cs : List Char) : Bool :=
  ps.length = cs.length && (ps.zip cs).all fun (p, c) => p c

/-- Whether a text has the shape of a group name. -/
def hasShape (s : String) : Bool := fits shape s.toList

end PositionLog.GroupId
