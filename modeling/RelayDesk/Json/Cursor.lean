import RelayDesk.Json.Fault
import RelayDesk.Text.Basic

/-!
A cursor in a text: what is left to read, and the place reached.  A step of reading gives a
refusal, or what it read and the cursor behind it.  Columns count bytes, so a
character moves the column by its length in UTF-8, and a line break moves to column zero of the
next line.
-/

namespace RelayDesk
namespace Json

structure Cursor where
  rest : List Char
  place : Place
  deriving Repr

def Place.after (p : Place) (c : Char) : Place :=
  if c = '\n' then { line := p.line + 1, column := 0 }
  else { p with column := p.column + c.utf8Size }

/-- The place one byte further, which for a longer character lies inside it. -/
def Place.afterByte (p : Place) (c : Char) : Place :=
  if c = '\n' then { line := p.line + 1, column := 0 }
  else { p with column := p.column + 1 }

/-- The place `count` bytes into the text, which may lie inside a character. -/
def Place.afterBytes (p : Place) : Nat → List Char → Place
  | _, [] => p
  | count, c :: rest =>
    if c.utf8Size < count then (p.after c).afterBytes (count - c.utf8Size) rest
    else if c = '\n' then p.after c
    else { p with column := p.column + count }

def Place.afterAll (p : Place) (cs : List Char) : Place :=
  cs.foldl Place.after p

namespace Cursor

def start (s : String) : Cursor :=
  { rest := s.toList, place := { line := 1, column := 0 } }

/-- Behind the next character, or where it was at the end. -/
def advance (cur : Cursor) : Cursor :=
  match cur.rest with
  | [] => cur
  | c :: rest => { rest, place := cur.place.after c }

/-- The place where the next byte, if there is one, is found at fault. -/
def faultPlace (cur : Cursor) : Place :=
  match cur.rest with
  | [] => cur.place
  | c :: _ => cur.place.afterByte c

def refuse (cur : Cursor) (fault : Fault) : Refusal := { fault, place := cur.place }

def refuseNext (cur : Cursor) (fault : Fault) : Refusal := { fault, place := cur.faultPlace }

/-- Blanks of JSON: space, tab, line feed and carriage return. -/
def isJsonBlank (c : Char) : Bool := c = ' ' || c = '\t' || c = '\n' || c = '\r'

def skipBlankFrom (place : Place) : List Char → Cursor
  | [] => { rest := [], place }
  | c :: rest =>
    if isJsonBlank c then skipBlankFrom (place.after c) rest else { rest := c :: rest, place }

def skipBlank (cur : Cursor) : Cursor := skipBlankFrom cur.place cur.rest

/-- The run of decimal digits here, and the cursor behind it. -/
def digits (cur : Cursor) : List Char × Cursor :=
  let run := cur.rest.takeWhile Text.isDigit
  (run, { rest := cur.rest.dropWhile Text.isDigit,
          place := { cur.place with column := cur.place.column + run.length } })

/-- The rest of a word whose first letter has been read. -/
def word (expected : List Char) (cur : Cursor) : Except Refusal Cursor :=
  match expected, cur.rest with
  | [], _ => .ok cur
  | _ :: _, [] => .error (cur.refuse .endOfValue)
  | e :: more, c :: _ =>
    if c = e then word more cur.advance else .error (cur.refuseNext .expectedIdent)

end Cursor
end Json
end RelayDesk
