import DecisionGraph.Text.Blank
import DecisionGraph.Text.Digit
import DecisionGraph.Text.Word

/-!
Labels that state a goal, such as "Reach £20k MRR target": they hold a word about goals and a
number. Cases of letters do not count.
-/

namespace DecisionGraph.GoalNumber

/-- A letter without its case. Besides the ASCII letters, the kelvin sign is a case of `k` and the
long s one of `s`. -/
def folded (c : Char) : Char :=
  if c = '\u212a' then 'k' else if c = '\u017f' then 's' else c.toLower

/-- Takes a word of small letters in any case. -/
def afterWord? : List Char → List Char → Option (List Char)
  | [], text => some text
  | letter :: letters, c :: rest => if folded c = letter then afterWord? letters rest else none
  | _ :: _, [] => none

/-- One of the words stands in front and ends there. -/
def startsWithWord (words : List String) (text : List Char) : Bool :=
  words.any fun word =>
    match afterWord? word.toList text with
    | some rest => !inWord rest.head?
    | none => false

/-- Somewhere in the text, with the character before that place known, the test holds. -/
def somewhere (test : Option Char → List Char → Bool) : Option Char → List Char → Bool
  | before, [] => test before []
  | before, c :: rest => test before (c :: rest) || somewhere test (some c) rest

/-- Words about goals. Targeting is a means and no goal. -/
def goalWords : List String :=
  ["target", "targets", "targeted", "goal", "goals", "reach", "reaches", "reached", "reaching"]

def units : List String := ["k", "m", "bn", "million", "billion", "thousand"]

def isCurrency (c : Char) : Bool := c = '$' || c = '£' || c = '€' || c = '¥'

def isDigit (c : Char) : Bool := CharSet.digit.contains c

/-- Digits of a number go on over commas and points. -/
def inNumber (c : Char) : Bool := isDigit c || c = ',' || c = '.'

def skipBlanks (text : List Char) : List Char := text.dropWhile CharSet.blank.contains

/-- A word about goals that stands by itself. -/
def goalWordAt (before : Option Char) (text : List Char) : Bool :=
  !inWord before && startsWithWord goalWords text

def currencyAt : List Char → Bool
  | c :: rest => isCurrency c && (skipBlanks rest).head?.any isDigit
  | [] => false

def percentAt : List Char → Bool
  | c :: rest =>
    isDigit c && (skipBlanks (rest.dropWhile inNumber)).head? = some '%'
  | [] => false

/-- Behind a character of a number, the number may end: there, behind a unit, or later on. -/
def amountEnds (last : Char) : List Char → Bool
  | [] => wordBoundary (some last) none || startsWithWord units (skipBlanks [])
  | c :: rest =>
    wordBoundary (some last) (some c) || startsWithWord units (skipBlanks (c :: rest))
      || inNumber c && amountEnds c rest

/-- A number that stands by itself, perhaps with a unit. -/
def amountAt (before : Option Char) : List Char → Bool
  | c :: rest => !inWord before && isDigit c && amountEnds c rest
  | [] => false

def numberAt (before : Option Char) (text : List Char) : Bool :=
  currencyAt text || percentAt text || amountAt before text

/-- Whether a label states a goal rather than a factor. -/
def isGoalNumber (label : String) : Bool :=
  somewhere numberAt none label.toList && somewhere goalWordAt none label.toList

end DecisionGraph.GoalNumber
