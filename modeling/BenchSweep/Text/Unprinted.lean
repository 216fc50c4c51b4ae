import BenchSweep.Text.BinaryProperty
import BenchSweep.Text.LaterCharacters

/-! The characters that a quoted text shows by number: controls, format characters, separators
other than the space, private and unassigned code points (general categories Cc, Cf, Zl, Zp, Zs,
Co, Cn), those that would merge with the character before them (property Grapheme_Extend), and those
without a look of their own (property Default_Ignorable_Code_Point). -/
set_option autoImplicit false

namespace BenchSweep.Text

open GeneralCategory BinaryProperty

/-- The half-width sound marks of katakana extend the character before them and yet stand alone. -/
def soundMarks : CodePoints := .range 0xFF9E 0xFF9F

def unprinted : CodePoints :=
  .unions [control, format, privateUse, separators, unassigned \ LaterCharacters.all, graphemeExtend,
    LaterCharacters.marks, defaultIgnorable] \ (.single ' ' ∪ soundMarks)

end BenchSweep.Text
