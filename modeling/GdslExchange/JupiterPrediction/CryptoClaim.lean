/-
This file models how the label of a market is read as a price claim: which asset it names, at which
level, in which direction, and whether touching the level is enough.
-/

import GdslExchange.Text.Decimal
import GdslExchange.Text.Matcher

namespace GdslExchange.JupiterPrediction

open Text Text.Matcher

inductive ClaimDirection where
  | above
  | below
deriving DecidableEq

structure CryptoClaim where
  base : String
  direction : ClaimDirection
  strike : ℚ
  isTouch : Bool

/-! ### The asset -/

def nameToTicker : List (String × String) :=
  [("bitcoin", "BTC"), ("btc", "BTC"), ("ethereum", "ETH"), ("ether", "ETH"), ("eth", "ETH"),
    ("solana", "SOL"), ("sol", "SOL"), ("ripple", "XRP"), ("xrp", "XRP"), ("dogecoin", "DOGE"),
    ("doge", "DOGE"), ("cardano", "ADA"), ("ada", "ADA"), ("avalanche", "AVAX"),
    ("avax", "AVAX"), ("chainlink", "LINK"), ("link", "LINK"), ("polkadot", "DOT"),
    ("dot", "DOT"), ("litecoin", "LTC"), ("ltc", "LTC"), ("bnb", "BNB"), ("toncoin", "TON"),
    ("ton", "TON"), ("sui", "SUI"), ("aptos", "APT"), ("apt", "APT")]

/-- What the record answers to a word: also its own constructor, to that name. -/
def tickerOf (word : String) : Option String :=
  if word = "constructor" then some "function Object() \x7b [native code] \x7d"
  else nameToTicker.lookup word

/-- `letter.toLowerCase()`, as far as `[a-z]` can tell. -/
def lowered (letter : Char) : List Char :=
  if letter = '\u212a' then ['k']
  else if letter = '\u0130' then ['i', '\u0307']
  else [letter.toLower]

/-- The matches of `/[a-z]+/g` in the text in lower case. -/
def claimWords (text : List Char) : List String :=
  (((text.flatMap lowered).splitOnP fun letter => ! letter.isLower).filter (· ≠ [])).map
    String.ofList

/-- The first recognised name or ticker in the text. -/
def baseOf (text : List Char) : Option String := (claimWords text).findSome? tickerOf

/-! ### The direction -/

/-- `<\s*\$?\d`, or with the other sign. -/
def comparison (sign : Char) : Matcher :=
  seq (oneOf (· = sign)) (seq (star (oneOf isSpace))
    (seq (optional (oneOf (· = '$'))) (oneOf Char.isDigit)))

def wholeWords (texts : List String) : Matcher :=
  seq boundary (seq (group 1 (anyOf texts)) boundary)

def belowWords : Matcher :=
  alt (wholeWords ["below", "under", "beneath", "less than", "lower than", "dip", "drop", "fall",
    "crash"]) (comparison '<')

def aboveWords : Matcher :=
  alt (wholeWords ["above", "over", "exceed", "greater than", "higher than", "at least", "hit",
    "reach", "touch", "top", "surpass", "break"])
    (alt (literal ">=") (alt (oneOf (· = '≥')) (comparison '>')))

def touchWords : Matcher :=
  wholeWords ["hit", "reach", "touch", "ever", "any point", "anytime", "at any time",
    "all-time high", "ath"]

/-! ### The strike -/

/-- `\d{1,3}(?:,\d{3})+`. -/
def separatedExpression : Matcher :=
  seq (seq (oneOf Char.isDigit) (upTo (oneOf Char.isDigit) 2))
    (plus (seq (oneOf (· = ',')) (exactly (oneOf Char.isDigit) 3)))

/-- `\d+(?:\.\d+)?`. -/
def decimalExpression : Matcher :=
  seq (plus (oneOf Char.isDigit))
    (optional (seq (oneOf (· = '.')) (plus (oneOf Char.isDigit))))

def isSuffix (letter : Char) : Bool := letter ∈ ['k', 'K', 'm', 'M']

/-- `\s*([kKmM])?\b`. -/
def suffixExpression : Matcher :=
  seq (star (oneOf isSpace)) (seq (optional (group 2 (oneOf isSuffix))) boundary)

/-- The number, with its suffix. -/
def numberExpression : Matcher :=
  seq (group 1 (alt separatedExpression decimalExpression)) suffixExpression

/-- The number, perhaps after a dollar sign. -/
def strikeExpression : Matcher :=
  seq (optional (oneOf (· = '$'))) (seq (star (oneOf isSpace)) numberExpression)

/-- `rawNum`. Numbers are exact, and so always finite. -/
def rawNum (captures : Captures) : ℚ :=
  parseDecimal (((captures.lookup 1).getD []).filter (· ≠ ','))

def multiplier : Option (List Char) → ℚ
  | some [letter] =>
    if letter.toLower = 'k' then 1000 else if letter.toLower = 'm' then 1000000 else 1
  | _ => 1

def strikeOf (captures : Captures) : ℚ := rawNum captures * multiplier (captures.lookup 2)

/-! ### The claim -/

/-- A "below" reading only wins when no "above" wording is present. -/
def directionOf (text : List Char) : ClaimDirection :=
  if test belowWords text ∧ ¬ test aboveWords text then .below else .above

/-- Extracts a price claim from a market label. -/
def parseCryptoClaim (text : String) : Option CryptoClaim :=
  if text = "" then none
  else
    let s := trimSpaces text.toList
    match search strikeExpression none s with
    | none => none
    | some captures =>
      if rawNum captures ≤ 0 then none
      else if strikeOf captures ≤ 0 then none
      else (baseOf s).map fun base =>
        { base := base
          direction := directionOf s
          strike := strikeOf captures
          isTouch := test touchWords s }

end GdslExchange.JupiterPrediction
