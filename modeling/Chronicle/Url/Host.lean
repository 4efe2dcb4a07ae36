/- # Hosts

The normal form of the host in an address. Four numbers with points between
them stay as they are. Groups of hexadecimal digits with colons between them
are written without leading zeros, the longest run of zero groups as two
colons, and in brackets. A name is in lower case, and its labels beyond ASCII
are written in Punycode.

Key definitions: `ipv4?`, `ipv6?`, `ipv6Text`, `normalHost?`.
-/
import Chronicle.Hex
import Chronicle.Text.Lowercase
import Chronicle.Url.Punycode

namespace Chronicle.Url

/-- The pieces of a text between the characters that are marks. -/
def pieces (isMark : Char → Bool) : List Char → List (List Char)
  | [] => [[]]
  | c :: cs =>
    if isMark c then [] :: pieces isMark cs
    else match pieces isMark cs with
      | [] => [[c]]
      | piece :: rest => (c :: piece) :: rest

/-! ### Numeric hosts -/

/-- The number of a text of digits, below two hundred and fifty-six and without leading zeros. -/
def octet? (cs : List Char) : Option Nat :=
  let n := cs.foldl (fun n c => 10 * n + (c.toNat - '0'.toNat)) 0
  if cs.isEmpty || 3 < cs.length || !cs.all Char.isDigit then none
  else if (1 < cs.length && cs.head? = some '0') || 255 < n then none
  else some n

/-- The number that four numbers with points between them stand for. -/
def ipv4? (cs : List Char) : Option Nat :=
  match (pieces (· = '.') cs).map octet? with
  | [some a, some b, some c, some d] => some (((a * 256 + b) * 256 + c) * 256 + d)
  | _ => none

/-- The number of a group of one to four hexadecimal digits. -/
def group? (cs : List Char) : Option Nat :=
  if cs.isEmpty || 4 < cs.length then none
  else (cs.mapM Hex.value?).map fun ds => ds.foldl (fun n d => 16 * n + d) 0

/-- The numbers of the groups in a list of texts, of which the last may be four numbers with points
between them, which stand for two groups. -/
def groups? (dotted : Bool) : List (List Char) → Option (List Nat)
  | [] => some []
  | [last] =>
    if dotted && last.contains '.' then (ipv4? last).map fun n => [n / 65536, n % 65536]
    else (group? last).map fun n => [n]
  | cs :: rest => do
    let n ← group? cs
    let ns ← groups? dotted rest
    some (n :: ns)

/-- The groups of a text, none in an empty one. -/
def groupsOf? (dotted : Bool) (cs : List Char) : Option (List Nat) :=
  if cs.isEmpty then some [] else groups? dotted (pieces (· = ':') cs)

/-- What stands before and after the first two colons in a row. -/
def splitAtGap? : List Char → Option (List Char × List Char)
  | ':' :: ':' :: rest => some ([], rest)
  | c :: cs => (splitAtGap? cs).map fun (before, after) => (c :: before, after)
  | [] => none

/-- The eight groups of a numeric host, where two colons in a row stand for one or more groups of
zero. -/
def ipv6? (cs : List Char) : Option (List Nat) :=
  match splitAtGap? cs with
  | none => (groupsOf? true cs).filter fun ns => ns.length = 8
  | some (before, after) => do
    let high ← groupsOf? false before
    let low ← groupsOf? true after
    if high.length + low.length < 8 then
      some (high ++ List.replicate (8 - high.length - low.length) 0 ++ low)
    else none

/-- Where the longest run of zeros starts, and its length; of equally long runs the first. -/
def zeroRun : List Nat → Nat × Nat
  | [] => (0, 0)
  | n :: ns =>
    let here := ((n :: ns).takeWhile (· = 0)).length
    let (start, length) := zeroRun ns
    if length ≤ here then (0, here) else (start + 1, length)

/-- Groups with colons between them. -/
def joinGroups (ns : List Nat) : List Char := [':'].intercalate (ns.map (Nat.toDigits 16))

/-- The text of eight groups, where a run of zeros is left out if it is longer than one. -/
def ipv6Text (ns : List Nat) : List Char :=
  let (start, length) := zeroRun ns
  if length < 2 then joinGroups ns
  else joinGroups (ns.take start) ++ ':' :: ':' :: joinGroups (ns.drop (start + length))

/-! ### Names -/

/-- Whether a character separates labels. -/
def isLabelMark (c : Char) : Bool := ['.', '\u3002', '\uff0e', '\uff61'].contains c

/-- A character of a name in lower case, and of ordinary width if it is a full-width form of an
ASCII character. -/
def nameChar (c : Char) : Char :=
  if 0xff01 ≤ c.toNat && c.toNat ≤ 0xff5e then (Char.ofNat (c.toNat - 0xfee0)).toLower
  else Text.lowerChar c

/-- A label in ASCII alone. -/
def asciiLabel (label : List Char) : List Char :=
  if label.all (·.toNat < 128) then label else "xn--".toList ++ Punycode.encode label

/-- A name in lower case and in ASCII alone; none if a label is empty or too long. The last label
may be empty. Accents that follow their letters are not joined to them. -/
def asciiName? (cs : List Char) : Option (List Char) :=
  let labels := (pieces isLabelMark (cs.map nameChar)).map asciiLabel
  let needed := if labels.getLast? = some [] then labels.dropLast else labels
  if !needed.isEmpty && needed.all (fun label => !label.isEmpty && label.length < 64) then
    some (['.'].intercalate labels)
  else none

/-- The normal form of a host that is a name. -/
def normalName? (cs : List Char) : Option (List Char) :=
  if cs.all (·.toNat < 128) then some (cs.map Char.toLower) else asciiName? cs

/-- The normal form of a host, which can be numeric if it ends in a digit or holds a colon. What
follows a percent sign behind a numeric host stays as it is. -/
def normalHost? (cs : List Char) : Option (List Char) :=
  if cs.contains ':' || (cs.getLast?.any Char.isDigit) then
    let (number, zone) := cs.span (· ≠ '%')
    if (ipv4? number).isSome then some cs
    else match ipv6? number with
      | some ns => some ('[' :: ipv6Text ns ++ zone ++ [']'])
      | none => normalName? cs
  else normalName? cs

end Chronicle.Url
