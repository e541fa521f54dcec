import FluentBuilder.Json.Tree
import FluentBuilder.Yaml.Line

/-!
Data as YAML text in blocks: an entry or an item on each line, nested two columns a level; a list
under a key stands at the column of the key.
-/

namespace FluentBuilder.Tree

open Yaml

mutual

def yamlAfterKey (indent column : Nat) : Tree → List Char
  | .text s => writeText (indent + 2) column s ++ ['\n']
  | .flag b => (if b then " true\n" else " false\n").toList
  | .list [] => " []\n".toList
  | .list items => '\n' :: yamlItems indent false items
  | .fields [] => " \x7b\x7d\n".toList
  | .fields entries => '\n' :: yamlEntries (indent + 2) false entries

def yamlAfterHyphen (indent : Nat) : Tree → List Char
  | .text s => writeText (indent + 2) (indent + 1) s ++ ['\n']
  | .flag b => (if b then " true\n" else " false\n").toList
  | .list [] => " []\n".toList
  | .list items => ' ' :: yamlItems (indent + 2) true items
  | .fields [] => " \x7b\x7d\n".toList
  | .fields entries => ' ' :: yamlEntries (indent + 2) true entries

def yamlItems (indent : Nat) (continued : Bool) : List Tree → List Char
  | [] => []
  | t :: rest =>
    List.replicate (if continued then 0 else indent) ' ' ++ '-' :: yamlAfterHyphen indent t ++
      yamlItems indent false rest

def yamlEntries (indent : Nat) (continued : Bool) : List (String × Tree) → List Char
  | [] => []
  | (key, t) :: rest =>
    List.replicate (if continued then 0 else indent) ' ' ++ key.toList ++ ':' ::
      yamlAfterKey indent (indent + key.length + 1) t ++ yamlEntries indent false rest

end

/-- The YAML text of a list; keys are taken to be plain. -/
def yaml (items : List Tree) : String :=
  match items with
  | [] => "[]\n"
  | items => String.ofList (yamlItems 0 false items)

end FluentBuilder.Tree
