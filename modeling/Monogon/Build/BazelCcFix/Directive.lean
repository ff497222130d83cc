import Mathlib.Data.List.Basic

/-! The text side of bazel_cc_fix: the include directives `reIncludeDirective` finds in a source
file, and the `strings.Replacer` that rewrites them.

`reIncludeDirective` is `(?m:^\s*#\s*include\s*([<"])(.*)([>"]))`. At a line start it skips
whitespace, which may run over line ends, then takes `#`, `include` and an opening `<` or `"`;
`(.*)` takes the rest of that line up to its last `>` or `"`. Each `\s*` is followed by a
character that is not whitespace, so taking the longest run is the only way to match.
`FindAllStringSubmatch` looks for the next match after the end of the last one, and `^` only
matches at a line start. -/

namespace Monogon.Build.BazelCcFix

/-- `\s` of Go's regexp syntax: `[\t\n\f\r ]`. -/
def isSpace (c : Char) : Bool :=
  c == '\t' || c == '\n' || c == '\x0c' || c == '\r' || c == ' '

/-- The index of the last `>` or `"` of a line. -/
def lastCloser : List Char → Option Nat
  | [] => none
  | c :: rest =>
    match lastCloser rest with
    | some j => some (j + 1)
    | none => if c == '>' || c == '"' then some 0 else none

/-- One submatch of `reIncludeDirective`: `incl[0]`, `incl[1]` and `incl[2]`. -/
structure Include where
  directive : List Char
  kind : Char
  file : List Char
deriving DecidableEq, Repr

/-- `reIncludeDirective` matched at a line start. -/
def matchAt (s : List Char) : Option Include :=
  let (lead, s) := s.span isSpace
  match s with
  | '#' :: s =>
    let (gap, s) := s.span isSpace
    if "include".toList.isPrefixOf s then
      let (gap', s) := (s.drop 7).span isSpace
      match s with
      | k :: s =>
        if k == '<' || k == '"' then
          let line := s.takeWhile (· != '\n')
          (lastCloser line).map fun j =>
            ⟨lead ++ '#' :: gap ++ "include".toList ++ gap' ++ k :: line.take (j + 1), k,
              line.take j⟩
        else none
      | [] => none
    else none
  | _ => none

/-- `FindAllStringSubmatch` from `skip` characters past the last match. -/
def findAllFrom : Nat → Bool → List Char → List Include
  | _, _, [] => []
  | skip + 1, _, c :: rest => findAllFrom skip (c == '\n') rest
  | 0, lineStart, c :: rest =>
    match if lineStart then matchAt (c :: rest) else none with
    | some incl => incl :: findAllFrom (incl.directive.length - 1) (c == '\n') rest
    | none => findAllFrom 0 (c == '\n') rest

/-- `reIncludeDirective.FindAllStringSubmatch(source, -1)`. -/
def includeDirectives (source : List Char) : List Include :=
  findAllFrom 0 true source

example : (includeDirectives "int x;\n  #include <a.h> // \"c\"\n# include\"b.h\"\n".toList).map
    (fun incl => (incl.kind, incl.file)) = [('<', "a.h> // \"c".toList), ('"', "b.h".toList)] := by
  decide

/-- `unicode.IsSpace`. -/
def isUnicodeSpace (c : Char) : Bool :=
  (c.toNat ≥ 0x09 && c.toNat ≤ 0x0d) || c.toNat == 0x20 || c.toNat == 0x85 || c.toNat == 0xa0 ||
    c.toNat == 0x1680 || (c.toNat ≥ 0x2000 && c.toNat ≤ 0x200a) || c.toNat == 0x2028 ||
    c.toNat == 0x2029 || c.toNat == 0x202f || c.toNat == 0x205f || c.toNat == 0x3000

/-- `strings.TrimSpace`. -/
def trimSpace (s : List Char) : List Char :=
  ((s.dropWhile isUnicodeSpace).reverse.dropWhile isUnicodeSpace).reverse

/-- `strings.Replacer.WriteString` for `pairs`, from `skip` characters past the last replacement. -/
def replaceFrom (pairs : List (List Char × List Char)) : Nat → List Char → List Char
  | _, [] => []
  | skip + 1, _ :: rest => replaceFrom pairs skip rest
  | 0, c :: rest =>
    match pairs.find? fun pair => pair.1.isPrefixOf (c :: rest) with
    | some (old, new) => new ++ replaceFrom pairs (old.length - 1) rest
    | none => c :: replaceFrom pairs 0 rest

/-- `strings.NewReplacer(pairs...).WriteString(w, s)`: what is written. -/
def replace (pairs : List (List Char × List Char)) (s : List Char) : List Char :=
  replaceFrom pairs 0 s

end Monogon.Build.BazelCcFix
