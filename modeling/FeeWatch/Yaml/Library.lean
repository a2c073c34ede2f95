import FeeWatch.Yaml.Data
import FeeWatch.Yaml.Writer

/-! What settings need of a YAML library: the data of a text, and a text for data.

Loading takes a library as a parameter. What is proved of a load names what it asks of the library,
and asks nothing of the reader and the writer here, which the program runs with. -/
namespace FeeWatch.Yaml

structure Library where
  /-- The data of a text; nothing is null. -/
  read : String → Except Fault Shared
  write : Datum → String

/-- The library that the program runs with. -/
def library : Library := ⟨read, write⟩

end FeeWatch.Yaml
