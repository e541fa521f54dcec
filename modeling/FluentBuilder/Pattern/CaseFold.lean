import FluentBuilder.Text.LetterCase

/-!
Comparing code points without regard to case. Two of them agree if their lower cases are equal, or
are variants of one letter that no case mapping joins.
-/

namespace FluentBuilder.Pattern

open Text

/-- Lower-case letters that count as one letter although neither is the other's lower case. -/
def letterVariants : List (Nat × List Nat) :=
  [
    (105, [305]), (115, [383]), (181, [956]), (305, [105]), (383, [115]), (837, [953, 8126]),
    (912, [8147]), (944, [8163]), (946, [976]), (949, [1013]), (952, [977]),
    (953, [837, 8126]), (954, [1008]), (956, [181]), (960, [982]), (961, [1009]),
    (962, [963]), (963, [962]), (966, [981]), (976, [946]), (977, [952]), (981, [966]),
    (982, [960]), (1008, [954]), (1009, [961]), (1013, [949]), (1074, [7296]), (1076, [7297]),
    (1086, [7298]), (1089, [7299]), (1090, [7300, 7301]), (1098, [7302]), (1123, [7303]),
    (7296, [1074]), (7297, [1076]), (7298, [1086]), (7299, [1089]), (7300, [1090, 7301]),
    (7301, [1090, 7300]), (7302, [1098]), (7303, [1123]), (7304, [42571]), (7777, [7835]),
    (7835, [7777]), (8126, [837, 953]), (8147, [912]), (8163, [944]), (42571, [7304]),
    (64261, [64262]), (64262, [64261])]

inductive CaseRule
  | exact
  | ascii
  | unicode
  deriving DecidableEq

namespace CaseRule

def lower : CaseRule → Nat → Nat
  | .exact, n => n
  | .ascii, n => if 65 ≤ n ∧ n ≤ 90 then n + 32 else n
  | .unicode, n => lowerCode n

/-- The letters that count as the given lower-case letter although they are not. -/
def alike : CaseRule → Nat → List Nat
  | .unicode, lowered => (letterVariants.lookup lowered).getD []
  | _, _ => []

def isCased : CaseRule → Nat → Bool
  | .exact, _ => false
  | .ascii, n => (65 ≤ n && n ≤ 90) || (97 ≤ n && n ≤ 122)
  | .unicode, n => lowerCode n != n || upperCode n != n

end CaseRule

end FluentBuilder.Pattern
