import Notebook.Text.Basic

/-! # Languages of code cells

A fence tag names a language, sometimes by an abbreviation. The table holds the abbreviations that
are also written back; every other tag stands for itself.
-/

namespace Notebook

/-- Abbreviated tags with the language each of them stands for. -/
def languageTags : List (Text × Text) :=
  [("js", "javascript"), ("ts", "typescript"), ("rust", "rust"), ("go", "go"), ("nu", "nushell"),
    ("sh", "bash"), ("fish", "fish"), ("zsh", "zsh"), ("openai", "openai"), ("groq", "groq")]

/-- The language that a tag names. -/
def languageOfTag (tag : Text) : Text :=
  ((languageTags.find? (·.1 = tag)).map (·.2)).getD tag

/-- The tag that is written for a language. -/
def tagOfLanguage (language : Text) : Text :=
  ((languageTags.find? (·.2 = language)).map (·.1)).getD language

end Notebook
