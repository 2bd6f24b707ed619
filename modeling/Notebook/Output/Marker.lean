import Notebook.Text.Basic

/-! # The boundary marker

A program prints the marker on a line of its own before the output of each cell it replays.
-/

namespace Notebook.Output

/-- What a program prints before the output of each cell. -/
def marker : Text := "!!output-start-cell"

end Notebook.Output
