import ShellAtlas.Host
import ShellAtlas.Path
/-!
File URIs. Writing puts `file://` before an absolute path and escapes, component by component,
each byte that a URI cannot hold plainly. Reading follows the rules for file URLs: blanks and
controls around the text are dropped, tabs and newlines removed, a backslash counts as a slash,
query and fragment are cut, dot segments are resolved, and what is left is unescaped. Only a URI
of this machine, without host or with the host `localhost`, names a path.

A first segment of one letter and a colon or bar is a drive: it is spelled with a colon, removes
a host before it, and `..` does not leave it. A letter and a colon with a removed character behind
them end their segment.
-/
namespace ShellAtlas.FileUri

def isEscaped (b : UInt8) : Bool :=
  b ≤ 0x20 || 0x7F ≤ b ||
    ['"', '#', '<', '>', '?', '\x60', '\x7b', '\x7d', '%', '/', '\\'].any fun c => c.toNat = b.toNat

def escapeByte (b : UInt8) : List Char :=
  if isEscaped b then Text.escaped b else [Char.ofNat b.toNat]

def escape (bs : List UInt8) : List Char :=
  bs.flatMap escapeByte

def writeComponents (cs : List Path.Component) : List Char :=
  if cs = [] then ['/'] else cs.flatMap fun c => '/' :: escape c.bytes

def ofPath? (p : Path) : Option String :=
  if p.isAbsolute then
    some (String.ofList ("file://".toList ++ writeComponents p.components.tail))
  else none

def isOuter (c : Char) : Bool :=
  c.toNat ≤ 0x20

def isRemoved (c : Char) : Bool :=
  c = '\t' || c = '\n' || c = '\r'

def isSlash (c : Char) : Bool :=
  c = '/' || c = '\\'

def endsPath (c : Char) : Bool :=
  c = '?' || c = '#'

/-- A character that is left to read, and whether something was removed right before it. -/
structure Letter where
  char : Char
  apart : Bool
  deriving DecidableEq, Repr

def letters (apart : Bool) : List Char → List Letter
  | [] => []
  | c :: cs => if isRemoved c then letters true cs else ⟨c, apart⟩ :: letters false cs

def cleaned (cs : List Char) : List Letter :=
  letters false (((cs.dropWhile isOuter).reverse.dropWhile isOuter).reverse)

def chars (ls : List Letter) : List Char :=
  ls.map Letter.char

def afterWord? : List Char → List Letter → Option (List Letter)
  | [], ls => some ls
  | _ :: _, [] => none
  | w :: ws, l :: ls => if l.char.toLower = w then afterWord? ws ls else none

def isDrive : List Char → Bool
  | [a, b] => a.isAlpha && (b = ':' || b = '|')
  | _ => false

def isHere (segment : List Char) : Bool :=
  [".", "%2e"].any fun s => segment.map Char.toLower = s.toList

def isUp (segment : List Char) : Bool :=
  ["..", ".%2e", "%2e.", "%2e%2e"].any fun s => segment.map Char.toLower = s.toList

structure Walk where
  done : List (List Char)
  onDrive : Bool
  deriving DecidableEq, Repr

def splitDrive? : List Letter → Option (List Char × List Char)
  | a :: b :: c :: rest =>
    if a.char.isAlpha && b.char = ':' && c.apart then
      some ([a.char, b.char], c.char :: chars rest)
    else none
  | _ => none

def Walk.step (w : Walk) (segment : List Letter) (last : Bool) : Walk :=
  let text := chars segment
  match if w.done = [] then splitDrive? segment else none with
  | some (drive, rest) => ⟨[rest, drive], w.onDrive⟩
  | none =>
    if isUp text then
      let kept := match w.done with
        | [] => []
        | s :: rest => if isDrive s then s :: rest else rest
      ⟨if last then [] :: kept else kept, w.onDrive⟩
    else if isHere text then ⟨if last then [] :: w.done else w.done, w.onDrive⟩
    else if w.done = [] && isDrive text then ⟨[text.take 1 ++ [':']], true⟩
    else ⟨text :: w.done, w.onDrive⟩

def Walk.run : Walk → List (List Letter) → Walk
  | w, [] => w
  | w, [segment] => w.step segment true
  | w, segment :: next :: rest => run (w.step segment false) (next :: rest)

def spell (segments : List (List Char)) : List Char :=
  '/' :: ['/'].intercalate (segments.dropWhile (· = []))

/-- A path whose last two bytes are a drive gets a closing slash. -/
def closeDrive (bs : List UInt8) : List UInt8 :=
  match bs.reverse with
  | b :: a :: _ :: _ =>
    if (b = 0x3A || b = 0x7C) && (Char.ofNat a.toNat).isAlpha && a < 0x80 then bs ++ [Path.slash]
    else bs
  | _ => bs

def Walk.path (w : Walk) : Path :=
  ⟨closeDrive (Text.unescape (Text.bytes (spell w.done.reverse)))⟩

def segments (ls : List Letter) : List (List Letter) :=
  ls.splitOnP fun l => isSlash l.char

def walk (before : List (List Char)) (ls : List Letter) : Walk :=
  Walk.run ⟨before, false⟩ (segments (ls.takeWhile fun l => !endsPath l.char))

def dropSlash (ls : List Letter) : List Letter :=
  if ls.head?.any (isSlash ·.char) then ls.drop 1 else ls

def endsHost (l : Letter) : Bool :=
  isSlash l.char || endsPath l.char

/-- The path after the two slashes before a host. A drive in the host's place belongs to the
path. Behind this machine's own host an empty segment comes first, so a drive there is a name
like others; another host gives way to a drive. -/
def readHost? (ls : List Letter) : Option Path :=
  let host := chars (ls.takeWhile fun l => !endsHost l)
  let rest := dropSlash (ls.dropWhile fun l => !endsHost l)
  if isDrive host then some (walk [] ls).path
  else if host = [] then some (walk [[]] rest).path
  else
    match Host.parse? host with
    | none => none
    | some h =>
      if h.isLocal then some (walk [[]] rest).path
      else if (walk [] rest).onDrive then some (walk [] rest).path
      else none

def toPath? (uri : String) : Option Path :=
  (afterWord? "file:".toList (cleaned uri.toList)).bind fun ls =>
    match ls with
    | a :: b :: rest =>
      if isSlash a.char && isSlash b.char then readHost? rest else some (walk [] (dropSlash ls)).path
    | _ => some (walk [] (dropSlash ls)).path

end ShellAtlas.FileUri
