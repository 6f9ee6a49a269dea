import TreeSelect.Markup.Builder.State

namespace TreeSelect.Markup

namespace Builder

/-- An end tag matched against the open elements from the top: the first of its name closes,
with what is above it; a special element met first stops the search. -/
def closeNamed (b : Builder) (name : String) : Builder :=
  go b.stack.toList.reverse
where
  go : List Nat → Builder
    | [] => b
    | n :: rest =>
      if b.dom.isHtml n [name] then (b.generateImpliedEnd name).popUntil (· == n)
      else if b.isSpecial n then b
      else go rest

/-- Where the new formatting element goes in the list of active formatting elements. -/
inductive Bookmark where
  | replace (n : Nat)
  | after (n : Nat)

/-- The state of the inner loop of the adoption agency. -/
structure AdoptionLoop where
  b : Builder
  pos : Nat
  lastNode : Nat
  bookmark : Bookmark
  counter : Nat

/-- The inner loop: walk up from the furthest block to the formatting element, giving each
formatting element met a fresh copy that adopts the node below it, and dropping the others. -/
def adoptionInner (fe fb : Nat) : Nat → AdoptionLoop → AdoptionLoop
  | 0, st => st
  | fuel + 1, st =>
    let counter := st.counter + 1
    if st.pos == 0 then st else
    let pos := st.pos - 1
    let node := st.b.stack[pos]?.getD 0
    if node == fe then { st with pos := pos, counter := counter } else
    let b := if counter > 3 then
        match st.b.formattingIndex? node with
        | some i => { st.b with formatting := st.b.formatting.eraseIdxIfInBounds i }
        | none => st.b
      else st.b
    match b.formattingIndex? node with
    | none =>
      let b' := { b with stack := b.stack.eraseIdxIfInBounds pos }
      adoptionInner fe fb fuel { st with b := b', pos := pos, counter := counter }
    | some fi =>
      match b.formatting[fi]? with
      | some (.elem _ t) =>
        let (d, fresh) := b.dom.createElement .html t.name (plainAttrs t.attrs)
        let stack := b.stack.set! pos fresh
        let formatting := b.formatting.set! fi (.elem fresh t)
        let b := { b with dom := d, stack := stack, formatting := formatting }
        let bookmark := if st.lastNode == fb then .after fresh else st.bookmark
        let b := { b with dom := b.dom.append fresh st.lastNode }
        adoptionInner fe fb fuel
          { b := b, pos := pos, lastNode := fresh, bookmark := bookmark, counter := counter }
      | _ => { st with b := b, pos := pos, counter := counter }

/-- One round of the adoption agency for a formatting element `fe`, at `fi` in the list and
`si` on the stack, with its tag; `false` when the algorithm stops here. -/
def adoptionRound (b : Builder) (fi fe si : Nat) (ft : Tag) : Builder × Bool :=
  if !(b.inScope .plain (· == fe)) then (b, false) else
  let above := (b.stack.toList.drop si).find? b.isSpecial
  match above with
  | none =>
    let formatting := b.formatting.eraseIdxIfInBounds fi
    ({ b with stack := b.stack.extract 0 si, formatting := formatting }, false)
  | some fb =>
    let fbIndex := (b.stack.idxOf? fb).getD 0
    let common := b.stack[si - 1]?.getD 0
    let st := adoptionInner fe fb b.stack.size
      { b := b, pos := fbIndex, lastNode := fb, bookmark := .replace fe, counter := 0 }
    let b := st.b
    let b := { b with dom := b.dom.detach st.lastNode }
    let b := b.putNode (b.placeFor (some common)) st.lastNode
    let (d, fresh) := b.dom.createElement .html ft.name (plainAttrs ft.attrs)
    let d := d.moveChildren fb fresh
    let d := d.append fb fresh
    let b := { b with dom := d }
    let entry := Formatting.elem fresh ft
    let formatting := match st.bookmark with
      | .replace n =>
        match b.formattingIndex? n with
        | some i => b.formatting.set! i entry
        | none => b.formatting
      | .after n =>
        let withNew := match b.formattingIndex? n with
          | some i => b.formatting.insertIdx! (i + 1) entry
          | none => b.formatting
        match (withNew.findIdx? fun
            | .elem m _ => m == fe
            | .marker => false) with
        | some j => withNew.eraseIdxIfInBounds j
        | none => withNew
    let b := { b with formatting := formatting }
    let b := b.removeFromStack fe
    let pos := (b.stack.idxOf? fb).getD 0
    ({ b with stack := b.stack.insertIdx! (pos + 1) fresh }, true)

def adoption (b : Builder) (subject : String) : Builder :=
  if b.currentIs [subject] && (b.formattingIndex? b.current).isNone then b.pop
  else rounds 8 b
where
  rounds : Nat → Builder → Builder
    | 0, b => b
    | k + 1, b =>
      match b.sinceMarker.find? fun (_, _, t) => t.name == subject with
      | none => b.closeNamed subject
      | some (fi, fe, ft) =>
        match b.stack.idxOf? fe with
        | none => { b with formatting := b.formatting.eraseIdxIfInBounds fi }
        | some si =>
          match adoptionRound b fi fe si ft with
          | (b, true) => rounds k b
          | (b, false) => b

end Builder

end TreeSelect.Markup
