import TreeSelect.Markup.Entities
import TreeSelect.Markup.Token

namespace TreeSelect.Markup

/-- The characters that the C1 controls 0x80 to 0x9F stand for in a numeric reference; a
control with no such character stands for itself. -/
def c1Replacement (n : Nat) : Nat :=
  match n with
  | 0x80 => 0x20AC | 0x82 => 0x201A | 0x83 => 0x0192 | 0x84 => 0x201E | 0x85 => 0x2026
  | 0x86 => 0x2020 | 0x87 => 0x2021 | 0x88 => 0x02C6 | 0x89 => 0x2030 | 0x8A => 0x0160
  | 0x8B => 0x2039 | 0x8C => 0x0152 | 0x8E => 0x017D | 0x91 => 0x2018 | 0x92 => 0x2019
  | 0x93 => 0x201C | 0x94 => 0x201D | 0x95 => 0x2022 | 0x96 => 0x2013 | 0x97 => 0x2014
  | 0x98 => 0x02DC | 0x99 => 0x2122 | 0x9A => 0x0161 | 0x9B => 0x203A | 0x9C => 0x0153
  | 0x9E => 0x017E | 0x9F => 0x0178
  | n => n

def numericRefChar (n : Nat) : Char :=
  if n == 0 || n > 0x10FFFF || (0xD800 ≤ n && n ≤ 0xDFFF) then replacementChar
  else if 0x80 ≤ n && n ≤ 0x9F then Char.ofNat (c1Replacement n)
  else Char.ofNat n

def digitValue (hex : Bool) (c : Char) : Option Nat :=
  if c.isDigit then some (c.toNat - '0'.toNat)
  else if hex && 'a' ≤ c && c ≤ 'f' then some (c.toNat - 'a'.toNat + 10)
  else if hex && 'A' ≤ c && c ≤ 'F' then some (c.toNat - 'A'.toNat + 10)
  else none

/-- The number that the leading digits of a text spell, the count of those digits, and the
rest. -/
def readDigits (hex : Bool) : List Char → Nat → Nat → Nat × Nat × List Char
  | [], n, k => (n, k, [])
  | c :: cs, n, k =>
    match digitValue hex c with
    | some d => readDigits hex cs ((if hex then 16 else 10) * n + d) (k + 1)
    | none => (n, k, c :: cs)

/-- A numeric reference after `&#`: the text it stands for and how many characters it takes.
Without digits the characters read so far stay text. -/
def numericRef (cs : List Char) : List Char × Nat :=
  let (hex, marker, body) := match cs with
    | 'x' :: r => (true, ['x'], r)
    | 'X' :: r => (true, ['X'], r)
    | r => (false, [], r)
  match readDigits hex body 0 0 with
  | (_, 0, _) => (['&', '#'] ++ marker, marker.length)
  | (n, k, rest) =>
    let semi := match rest with
      | ';' :: _ => 1
      | _ => 0
    ([numericRefChar n], marker.length + k + semi)

/-- Whether a numeric reference stands for a code point that may not be written so: NUL, one
past the last, a surrogate, a control other than the blanks, or a noncharacter. -/
def forbiddenRefValue (n : Nat) : Bool :=
  n == 0 || n > 0x10FFFF || (0xD800 ≤ n && n ≤ 0xDFFF) || (0x80 ≤ n && n ≤ 0x9F) ||
    (0x01 ≤ n && n ≤ 0x08) || n == 0x0B || (0x0D ≤ n && n ≤ 0x1F) || n == 0x7F ||
    (0xFDD0 ≤ n && n ≤ 0xFDEF) || n % 0x10000 ≥ 0xFFFE

/-- Whether the text after `&` is a numeric reference written against the rules: without
digits, without its semicolon, or for a forbidden value. -/
def numericRefFlawed (cs : List Char) : Bool :=
  match cs with
  | '#' :: r =>
    let (hex, body) := match r with
      | 'x' :: b => (true, b)
      | 'X' :: b => (true, b)
      | b => (false, b)
    match readDigits hex body 0 0 with
    | (_, 0, _) => true
    | (n, _, rest) => rest.head? != some ';' || forbiddenRefValue n
  | _ => false

/-- The longest name of the table that a text starts with, at most `k` characters long, with
its text. -/
def longestEntity (cs : List Char) : Nat → Option (Nat × String)
  | 0 => none
  | k + 1 =>
    match entities.get? (String.ofList (cs.take (k + 1))) with
    | some v => if k + 1 ≤ cs.length then some (k + 1, v) else longestEntity cs k
    | none => longestEntity cs k

/-- A reference after `&`: the text it stands for and how many characters after the `&` it
takes. `inAttr` says whether it stands in an attribute value. -/
def charRef (cs : List Char) (inAttr : Bool) : List Char × Nat :=
  match cs with
  | '#' :: r =>
    let (s, k) := numericRef r
    (s, k + 1)
  | c :: _ =>
    if c.isAlphanum then
      match longestEntity cs longestEntityName with
      | none => (['&'], 0)
      | some (k, v) =>
        let name := cs.take k
        let runsOn := match cs.drop k with
          | d :: _ => d == '=' || d.isAlphanum
          | [] => false
        if inAttr && name.getLast? != some ';' && runsOn then ('&' :: name, k)
        else (v.toList, k)
    else (['&'], 0)
  | [] => (['&'], 0)

end TreeSelect.Markup
