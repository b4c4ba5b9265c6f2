import AccessLog.Text.Blank
import AccessLog.Text.Lowercase
import AccessLog.Text.WordTable

/-!
# Tokens of a format

A token is written `:name`, or `:name[key]`. Only the eleven known names make a
token, and two of them, the request and the response field, need a key that is
not blank; on the other names a bracket is allowed and says nothing. Keys are
compared without regard to case, so they are stored in lower case.
-/

namespace AccessLog

inductive TokenKind where
  | url
  | method
  | status
  | responseTime
  | totalTime
  | httpVersion
  | referrer
  | remoteAddress
  | userAgent
  | requestField
  | responseField
  deriving Repr, DecidableEq

namespace TokenKind

def all : List TokenKind :=
  [url, method, status, responseTime, totalTime, httpVersion, referrer, remoteAddress, userAgent,
    requestField, responseField]

def name : TokenKind → String
  | url => "url"
  | method => "method"
  | status => "status"
  | responseTime => "response-time"
  | totalTime => "total-time"
  | httpVersion => "http-version"
  | referrer => "referrer"
  | remoteAddress => "remote-addr"
  | userAgent => "user-agent"
  | requestField => "req"
  | responseField => "res"

/-- Does the kind need a key that says which field it shows? -/
def takesKey : TokenKind → Bool
  | requestField => true
  | responseField => true
  | _ => false

def ofName? (s : String) : Option TokenKind := all.find? fun kind => kind.name == s

theorem ofName?_name (kind : TokenKind) : ofName? kind.name = some kind := by
  cases kind <;> decide

/-- A name belongs to one kind. -/
theorem name_injective {a b : TokenKind} (h : a.name = b.name) : a = b := by
  have ha := ofName?_name a
  rw [h, ofName?_name] at ha
  exact (Option.some.inj ha).symm

theorem ofName?_eq_some_iff {s : String} {kind : TokenKind} :
    ofName? s = some kind ↔ s = kind.name := by
  constructor
  · intro h
    have := List.find?_some h
    simpa using (beq_iff_eq.mp this).symm
  · rintro rfl
    exact ofName?_name kind

end TokenKind

/-- A token as it stands in a format: its text is kept as written, and the key
of a field token in its normal form. -/
structure TokenRef where
  kind : TokenKind
  text : String
  key : Option String
  deriving Repr, DecidableEq

/-! ## Reading a token -/

/-- The normal form of what stands between brackets. -/
def normalKey (inner : List Char) : String :=
  Text.lower (String.ofList (Text.trim inner))

/-- Is the character one of the two brackets? -/
def isBracket (c : Char) : Bool := c == '[' || c == ']'

/-- What stands between an opening bracket at the start and a closing one at
the end, when there is no other bracket. -/
def bracketed? : List Char → Option (List Char)
  | '[' :: rest =>
    match rest.reverse with
    | ']' :: inner => if inner.any isBracket then none else some inner.reverse
    | _ => none
  | _ => none

/-- Brackets enclose exactly the texts that hold none. -/
theorem bracketed?_eq_some_iff {cs inner : List Char} :
    bracketed? cs = some inner ↔ cs = '[' :: (inner ++ [']']) ∧ inner.any isBracket = false := by
  constructor
  · intro h
    unfold bracketed? at h
    split at h
    · rename_i rest
      split at h
      · rename_i mid hrev
        split at h
        · cases h
        · rename_i hno
          obtain rfl := Option.some.inj h
          have hrest : rest = mid.reverse ++ [']'] := by
            have := congrArg List.reverse hrev
            simpa using this
          exact ⟨by rw [hrest], by simpa using hno⟩
      · cases h
    · cases h
  · rintro ⟨rfl, hno⟩
    have hrev : (inner ++ [']']).reverse = ']' :: inner.reverse := by simp
    simp only [bracketed?, hrev, List.any_reverse, hno, List.reverse_reverse]
    simp

/-- May the character stand in the name of a token? -/
def isNameChar (c : Char) : Bool := Text.isWord c || c == '-'

namespace TokenRef

/-- The name of a token, and what stands in the bracket after it, if there is one. A piece has
these parts when it is a colon, a name of two characters or more, and perhaps a bracket. The
name goes on as long as it can, because no name character opens a bracket. -/
def parts? : List Char → Option (List Char × Option (List Char))
  | ':' :: body =>
    let name := body.takeWhile isNameChar
    if name.length < 2 then none
    else
      match body.dropWhile isNameChar with
      | [] => some (name, none)
      | bracket => (bracketed? bracket).map fun inner => (name, some inner)
  | _ => none

/-- Reads a whole piece of a format as a token. -/
def parse? (piece : String) : Option TokenRef := do
  let (name, inner) ← parts? piece.toList
  let kind ← TokenKind.ofName? (String.ofList name)
  if !kind.takesKey then return ⟨kind, piece, none⟩
  let key := normalKey (inner.getD [])
  if key = "" then none else return ⟨kind, piece, some key⟩

end TokenRef

end AccessLog
