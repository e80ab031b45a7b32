import Testbed.Domain.Mark
/-!
# Directions of writing

A name with letters that are written from right to left must not be misleading to look at. Each of
its labels has to start with a letter, to hold only what goes with the direction of that letter, and
to end in a letter or a number.
-/

namespace Testbed.Domain

open Text (Ranges)

/-- What a character means for the direction of a text. -/
inductive Direction where
  | leftToRight
  | rightToLeft
  | arabicLetter
  | arabicNumber
  | europeanNumber
  | europeanSeparator
  | commonSeparator
  | terminator
  | nonspacing
  | boundary
  | neutral
  deriving DecidableEq, Repr

namespace Direction

def rightToLeftLetters : Ranges := .ofLines [
  "5BE-5F4 7C0-7F5 7FA-85E 10800-1091B 10920-10B35 10B40-10CFF 10D4A-10D4F 10D6F-10D85",
  "10E80-10EB1 10F00-10F27 10F70-10FF6 1E800-1E95F"]

def arabicLetters : Ranges := .ofLines [
  "608 60B 60D 61B-64A 66D-6D5 6E5-6E6 6EE-6EF 6FA-7B1 860-8C9 FBB2-FBC2 FE73 10D00-10D23",
  "10EC2-10EC7 10F30-10F59 1EC71-1ED3D"]

def arabicNumbers : Ranges := .ofLines [
  "660-669 66B-66C 10D30-10D49 10E60-10E7E"]

def europeanNumbers : Ranges := .ofLines [
  "30-39 6F0-6F9 102E1-102FB"]

def europeanSeparators : Ranges := .ofLines [
  "2B 2D 2212"]

def commonSeparators : Ranges := .ofLines [
  "2C 2E-2F 3A 60C 2044"]

def terminators : Ranges := .ofLines [
  "23-25 A2-A5 B0-B1 58F 609-60A 66A 9F2-9F3 9FB AF1 BF9 E3F 17DB 2030-2032 20A0-20C0 212E 2213",
  "A838-A839 11FDD-11FE0 1E2FF"]

def boundaries : Ranges := .ofLines [
  "0-8 E-1B 7F 200C-200D"]

def neutrals : Ranges := .ofLines [
  "21-22 26-2A 3B-60 7B-7E A1 A6-AE B6-D7 F7 2B9-2BA 2C2-2CF 2D2-2ED 2EF-2FF 375 3F6 58A-58E",
  "606-607 60E-60F 6DE 6E9 7F6-7F9 BF3-BF8 BFA C78-C7E F3A-F3D 1390-1399 1400 169B-169C",
  "17F0-180A 1940-1945 19DE-19FF 1B4E-1B4F 1B7F 2010-2027 2035-2043 2045-205E 20C1-2129",
  "213A-214D 218A-2211 2214-2335 237B-2394 2396-26AB 26AD-27FF 2900-2BFF 2CE5-2CEA 2CF9-2CFF",
  "2E00-3004 3008-3020 3030 3037 303D-303F 30A0 30FB 31C0-31E5 4DC0-4DFF A490-A4C6 A60D-A60F",
  "A673-A67F A700-A721 A788 A828-A82B A874-A877 AB6A-AB6B FBC3-FE46 10101 10140-1018C",
  "10190-101A0 1091F 10B39-10B3F 10D6E 10D8E-10D8F 10ED0-10ED8 11052-11065 113D4-113D8",
  "11660-1166C 11BE1 11FD5-11FDC 11FE1-11FF1 16D6D-16D6F 16FE2 1CC00-1CEF0 1D1E9-1D245",
  "1D300-1D356 1E5FF 1EEF0-1F12F 1F16D-1F16F 1F1AD 1F260-1FBFA"]

/-- Marks without a place of their own that count as letters. -/
def letterMarks : Ranges := .ofLines [
  "CBF CC6 11A07-11A08 11C3F"]

/-- A mark with a place of its own that counts as none. -/
def markOfNoPlace : Nat := 0x1171E

def ofChar (c : Char) : Direction :=
  let isIn (r : Ranges) : Bool := r.contains c.toNat
  if isIn letterMarks then .leftToRight
  else if isNonspacing c || c.toNat = markOfNoPlace then .nonspacing
  else if isIn rightToLeftLetters then .rightToLeft
  else if isIn arabicLetters then .arabicLetter
  else if isIn arabicNumbers then .arabicNumber
  else if isIn europeanNumbers then .europeanNumber
  else if isIn europeanSeparators then .europeanSeparator
  else if isIn commonSeparators then .commonSeparator
  else if isIn terminators then .terminator
  else if isIn boundaries then .boundary
  else if isIn neutrals then .neutral
  else .leftToRight

/-- Letters and numbers that make a text one with two directions. -/
def isFromRight (d : Direction) : Bool :=
  d = .rightToLeft || d = .arabicLetter || d = .arabicNumber

/-- What may stand in a text of either direction. -/
def isCommon (d : Direction) : Bool :=
  [.europeanNumber, .europeanSeparator, .commonSeparator, .terminator, .nonspacing, .boundary,
    .neutral].contains d

end Direction

/-- Whether a label can be read in one way only. -/
def isReadable (label : List Char) : Bool :=
  let ds := label.map Direction.ofChar
  let last := ds.reverse.find? (· ≠ .nonspacing)
  match ds.head? with
  | none => true
  | some .leftToRight =>
    ds.all (fun d => d = .leftToRight || d.isCommon) &&
      (last = some .leftToRight || last = some .europeanNumber)
  | some .rightToLeft | some .arabicLetter =>
    ds.all (fun d => d.isFromRight || d.isCommon) &&
      (last.map fun d => d.isFromRight || d = .europeanNumber).getD false &&
      !(ds.contains .arabicNumber && ds.contains .europeanNumber)
  | some _ => false

/-- Whether the labels of a name can be read in one way only. -/
def areReadable (labels : List (List Char)) : Bool :=
  if labels.any (·.any fun c => (Direction.ofChar c).isFromRight) then labels.all isReadable
  else true

end Testbed.Domain
