import ClassUsage.Source.Path
import ClassUsage.Text.LowerCase

set_option autoImplicit false

/-! The template languages of source files, told by the suffix of the file name. -/
namespace ClassUsage

/-- A group of template languages that are written alike. -/
inductive Dialect where
  | html
  | jsx
  | vue
  | svelte
  | astro
deriving DecidableEq, Repr

namespace Dialect

def all : List Dialect := [html, jsx, vue, svelte, astro]

def name : Dialect → Text
  | html => "html".toList
  | jsx => "jsx".toList
  | vue => "vue".toList
  | svelte => "svelte".toList
  | astro => "astro".toList

def extensions : Dialect → List Text
  | html => [".htm".toList, ".html".toList]
  | jsx => [".js".toList, ".jsx".toList, ".ts".toList, ".tsx".toList]
  | vue => [".vue".toList]
  | svelte => [".svelte".toList]
  | astro => [".astro".toList]

/-- The group that a suffix belongs to; capital letters count as small ones. -/
def ofSuffix? (suffix : Text) : Option Dialect :=
  all.find? fun dialect => dialect.extensions.contains suffix.lower

end Dialect

def Path.dialect? (path : Path) : Option Dialect := Dialect.ofSuffix? path.suffix

/-- The suffixes of all files that may hold class attributes, in alphabetical order. -/
def sourceExtensions : List Text :=
  (Dialect.all.flatMap Dialect.extensions).mergeSort Text.precedes

end ClassUsage
