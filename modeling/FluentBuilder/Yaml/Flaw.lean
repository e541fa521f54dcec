import FluentBuilder.Library.Basic
import FluentBuilder.Number.Reading
import FluentBuilder.Value.Moment

/-!
What can be wrong with a YAML text. A text that breaks the rules of the format is malformed; one
that keeps them can still hold a scalar that is no value of its kind.
-/

namespace FluentBuilder.Yaml

open Number Text

inductive ContentFault
  | moment (error : MomentError)
  | notMoment
  | notInteger (base : Nat) (text : String)
  | longNumber (digits : Nat)
  | notFloat (text : String)
  | hugeBase
  | emptyNumber
  | mappedMoment
  | noTruthValue (word : String)
  | beyondUnicode (code : Nat)
  deriving DecidableEq

def ContentFault.message : ContentFault → String
  | .moment e => e.message
  | .notMoment => "'NoneType' object has no attribute 'groupdict'"
  | .notInteger base text => notIntegerMessage base text
  | .longNumber digits => longNumberMessage (some digits)
  | .notFloat text => notFloatMessage text
  | .hugeBase => "int too large to convert to float"
  | .mappedMoment => "expected string or bytes-like object, got 'list'"
  | .emptyNumber => "string index out of range"
  | .noTruthValue word => word
  | .beyondUnicode code =>
    if code < Nat.pow 2 31 then "chr() arg not in range(0x110000)"
    else "Python int too large to convert to C int"

def ContentFault.kind : ContentFault → String
  | .moment _ | .notInteger .. | .longNumber _ | .notFloat _ => "ValueError"
  | .notMoment => "AttributeError"
  | .mappedMoment => "TypeError"
  | .hugeBase => "OverflowError"
  | .emptyNumber => "IndexError"
  | .noTruthValue _ => "KeyError"
  | .beyondUnicode code => if code < Nat.pow 2 31 then "ValueError" else "OverflowError"

def ContentFault.raised (f : ContentFault) : ForeignError := { kind := f.kind, message := f.message }

inductive Malformed
  | malformed
  deriving DecidableEq

inductive Flaw
  | malformed
  | content (fault : ContentFault)
  deriving DecidableEq

instance : MonadLift (Except Malformed) (Except Flaw) where
  monadLift := Except.mapError fun _ => .malformed

end FluentBuilder.Yaml
