import FluentBuilder.Yaml.Content

/-! The value of a YAML text. -/

namespace FluentBuilder.Yaml

/-- Reads a text that holds at most one document; a text without any has the value null. -/
def read (text : List Char) : Except Flaw Value := do
  let tokens ← tokensOf text
  match ← Node.ofTokens? tokens with
  | none => return .null
  | some document => document.value

/-- Reads a text as the library does that the program runs with. What is malformed there is not told
in its words. -/
def safeLoad : YamlReader := fun text =>
  (read text).mapError fun
    | .malformed => .malformed "the text breaks a rule of the format"
    | .content fault => .raised fault.raised

end FluentBuilder.Yaml
