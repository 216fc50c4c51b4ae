import BenchSweep.Text.BinaryProperty
import BenchSweep.Text.LaterCharacters

/-! The letters and digits of names, by version 17 of the standard. -/
set_option autoImplicit false

namespace BenchSweep.Text

/-- The letters of all scripts: the characters with the property Alphabetic. -/
def nameLetters : CodePoints := BinaryProperty.alphabetic ∪ LaterCharacters.letters

/-- The characters that denote numbers (general categories Nd, Nl, No). -/
def nameNumbers : CodePoints := GeneralCategory.numbers ∪ LaterCharacters.numbers

end BenchSweep.Text
