import FluentBuilder.Settings.Reference
import FluentBuilder.Yaml.Document
import FluentBuilder.Yaml.Writer

/-! The libraries that the program runs with. -/

namespace FluentBuilder

def Libraries.installed : Libraries where
  readYaml := Yaml.safeLoad
  writeYaml := Tree.yaml
  writeJson descriptions := (Tree.list descriptions).json ""
  readVariables := readStatements

end FluentBuilder
