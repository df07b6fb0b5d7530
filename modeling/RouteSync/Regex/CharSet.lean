import RouteSync.Text.Blank
import RouteSync.Text.Words

/-! Sets of characters, as patterns name them. -/
namespace RouteSync.Regex

inductive CharSet where
  | none
  | range (low high : Char)
  | digit
  | blank
  | wordChar
  | union (a b : CharSet)
  | inter (a b : CharSet)
  | minus (a b : CharSet)
  | complement (a : CharSet)
  /-- With the other case of every letter. -/
  | folded (a : CharSet)
  deriving DecidableEq, Inhabited

/-- The characters that differ from one by their case alone, and itself. -/
def variants (c : Char) : List Char :=
  match c.toLower with
  | 'k' => ['k', 'K', '\u212a']
  | 's' => ['s', 'S', '\u017f']
  | '\u212a' => ['k', 'K', '\u212a']
  | '\u017f' => ['s', 'S', '\u017f']
  | lower => [c, lower, c.toUpper]

namespace CharSet

def contains : CharSet → Char → Bool
  | none, _ => false
  | range low high, c => low ≤ c && c ≤ high
  | digit, c => Text.isDecimalDigit c
  | blank, c => Text.isBlank c
  | wordChar, c => Text.isWordChar c
  | union a b, c => a.contains c || b.contains c
  | inter a b, c => a.contains c && b.contains c
  | minus a b, c => a.contains c && !b.contains c
  | complement a, c => !a.contains c
  | folded a, c => (variants c).any fun d => a.contains d

def single (c : Char) : CharSet := range c c

def any : CharSet := complement none

def ofRanges (ranges : List (Char × Char)) : CharSet :=
  ranges.foldl (fun s (low, high) => s.union (range low high)) none

def ofText (text : String) : CharSet := text.toList.foldl (fun s c => s.union (single c)) none

/-- The characters below 128. -/
def ascii : CharSet := range '\x00' '\x7f'

/-- What is in one of two sets but not in both. -/
def difference (a b : CharSet) : CharSet := union (minus a b) (minus b a)

end CharSet
end RouteSync.Regex
