import HttpTap.Yaml.Build
import HttpTap.Yaml.Layout

/-!
# Reading a document

A settings file is written in YAML.  Reading goes from the text to tokens, from tokens to the
tree of the document, and from the tree to a value.  Only values of the basic kinds come out; a
tag that asks for anything else makes the document malformed, and so does a second document in
the same text, or a character that may not stand in a text at all.  An empty text stands for
nothing.
-/

namespace HttpTap
namespace Yaml

/-- The tree of a document, with so much room for collections inside each other. -/
def tree (room : Nat) (s : Supply) : Except Defect (Option Node) :=
  let (tokens, after) := Token.ofSupply s
  Node.ofTokens room tokens after

/-- The value of a document. -/
def read (room : Nat) (s : Supply) : Except Defect Value :=
  match tree room s with
  | .error d => .error d
  | .ok none => .ok .null
  | .ok (some n) => (n.build 0).mapError Blemish.defect

/-- A text without content stands for nothing. -/
example : (read 0 (.whole "# nothing\n".toList)).toOption.map Value.literal? =
    some (some "None") := by
  decide +kernel

/-- A mapping by indentation, with a mapping in braces and one that is taken over. -/
example : (read 2 (.whole "a: &x \x7bp: 1, q: yes\x7d\nb:\n  <<: *x\n  p: ~\n".toList)).toOption.map
    Value.literal? =
    some (some "\x7b'a': \x7b'p': 1, 'q': True\x7d, 'b': \x7b'p': None, 'q': True\x7d\x7d") := by
  decide +kernel

/-- Three sequences inside each other where there is room for two.  What is wrong behind the place
where the room ends does not count, and what is wrong in front of it does.  The same holds of a text
that cannot be had as a whole. -/
example : [.whole "[[[".toList, .whole "] [[[".toList,
      ⟨"[[".toList, some (.unbuildable .noText)⟩].map (fun s => match read 2 s with
        | .error d => some d
        | .ok _ => none) =
    [some (.unbuildable .tooDeep), some .malformed, some (.unbuildable .noText)] := by
  decide +kernel

end Yaml
end HttpTap
