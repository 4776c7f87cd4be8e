import OriTerm.Term.HandlerKeeps

/-!
# `Term.Op` — the terminal as one step function

`TermOp` lists what drives a terminal: the escape sequence handlers, the image commands on the active cache, and
what the host does between them (resize, scrolling the view, configuration, animation ticks). A handler that is a
single operation of the grid is `gridOp`, or `dirtyGridOp` when it also invalidates the selection; a sequence that
takes a list of modes to restore is a run of `xtrestore`.

**`TermOp.keeps`** is the one statement every result about reachable terminals rests on: the invariant, and the
promises of `Keeps` under the guards `TermOp.guards`.
-/

namespace OriTerm

open Lib

/-- What drives a terminal. -/
inductive TermOp where
  | input (c : Char)
  | backspace
  | putTab (count : Nat)
  | moveBackwardTabs (count : Nat)
  | linefeed
  | newline
  | bell
  | goto (line : Int) (col : Nat)
  | gotoLine (line : Int)
  | gotoCol (col : Nat)
  | moveDownAndCr (count : Nat)
  | moveUpAndCr (count : Nat)
  | gridOp (op : GridOp)
  | dirtyGridOp (op : GridOp)
  | setScrollingRegion (top : Nat) (bottom : Option Nat)
  | scrollUp (count : Nat)
  | clearScreen (mode : ClearMode)
  | clearLine (mode : LineEraseMode)
  | eraseChars (count : Nat)
  | setActiveCharset (index : CharsetIndex)
  | configureCharset (index : CharsetIndex) (charset : StandardCharset)
  | setSingleShift (index : CharsetIndex)
  | terminalAttribute (attr : Attr)
  | setHyperlink (link : Option Hyperlink)
  | saveCursor
  | restoreCursor
  | decslrmOrSaveCursor (hasParams : Bool) (left right : Nat)
  | setMode (mode : NamedMode) (value : Bool)
  | setPrivateMode (mode : NamedPrivateMode) (value : Bool)
  | xtsave (modes : List Nat)
  | xtrestore (num : Nat)
  | setKeypadApplicationMode (value : Bool)
  | setCursorShape (shape : CursorShape)
  | setCursorStyle (style : Option (CursorShape × Bool))
  | pushKeyboardMode (mode : KeyboardModes)
  | popKeyboardModes (toPop : Nat)
  | setKeyboardMode (mode : KeyboardModes) (apply : KeyboardModesApplyBehavior)
  | resetState
  | softReset
  | decscl (level c1Mode : Nat)
  | decaln
  | decsca (isProtected : Nat)
  | decsace (mode : Nat)
  | deccara (rect : DecRect) (attrs : List Nat)
  | decrara (rect : DecRect) (attrs : List Nat)
  | deccra (src : DecRect) (dstTop dstLeft : Nat)
  | decfra (ch : Nat) (rect : DecRect)
  | xtchecksum (flags : Nat)
  | decera (rect : DecRect)
  | decsera (rect : DecRect)
  | decic (count : Nat)
  | decdc (count : Nat)
  | decbi
  | decfi
  | setTitle (title : Option String)
  | setIconName (name : Option String)
  | pushTitle
  | popTitle
  | setColor (index : Nat) (color : Rgb)
  | resetColor (index : Nat)
  | setGraphicsAttribute (pi pa pv : Nat)
  /-- OSC 1337 SetMark. -/
  | setMark
  /-- A reply or a notification; the terminal does not change. -/
  | reply (e : Effect)
  | imageOps (ops : List Image.CacheOp)
  | kittyAdvance (cols rows : Nat)
  | imageAdvance (rows : Nat)
  | sixelAdvance (col cols rows : Nat)
  | setTheme (theme : Theme)
  | setCellDimensions (width height : Nat)
  | setImageProtocolEnabled (enabled : Bool)
  | setImageLimits (memoryLimit maxSingle : Nat)
  | setImageAnimationEnabled (enabled : Bool)
  | advanceAnimations (now : Image.Nanos)
  | resize (newLines newCols : Nat) (reflow : Bool)

namespace TermOp

/-- Performs an operation. -/
def apply (width : Char → Option Nat) (t : Term) : TermOp → Term
  | input c => t.inputChar width c
  | backspace => t.backspace
  | putTab count => t.putTab count
  | moveBackwardTabs count => t.moveBackwardTabs count
  | linefeed => t.linefeed
  | newline => t.newline
  | bell => t.bell
  | goto line col => t.gotoOriginAware line col
  | gotoLine line => t.gotoLine line
  | gotoCol col => t.gotoCol col
  | moveDownAndCr count => t.moveDownAndCr count
  | moveUpAndCr count => t.moveUpAndCr count
  | gridOp op => t.gridOp op
  | dirtyGridOp op => t.dirtySelection.gridOp op
  | setScrollingRegion top bottom => t.setScrollingRegion top bottom
  | scrollUp count => t.scrollUp count
  | clearScreen mode => t.clearScreen mode
  | clearLine mode => t.clearLine mode
  | eraseChars count => t.eraseChars count
  | setActiveCharset index => { t with charset := t.charset.setActive index }
  | configureCharset index charset => { t with charset := t.charset.setCharset index charset }
  | setSingleShift index => { t with charset := t.charset.setSingleShift index }
  | terminalAttribute attr => t.gridEdit (.editTemplate attr.apply)
  | setHyperlink link => t.setHyperlink link
  | saveCursor => t.saveCursor
  | restoreCursor => t.restoreCursor
  | decslrmOrSaveCursor hasParams left right => t.decslrmOrSaveCursor hasParams left right
  | setMode mode value => t.applyMode mode value
  | setPrivateMode mode value => t.applyPrivateMode mode value
  | xtsave modes => t.applyXtsave modes
  | xtrestore num => t.xtrestoreOne num
  | setKeypadApplicationMode value => t.setMode .appKeypad value
  | setCursorShape shape => t.setCursorShape shape
  | setCursorStyle style => t.setCursorStyle style
  | pushKeyboardMode mode => t.pushKeyboardMode mode
  | popKeyboardModes toPop => t.popKeyboardModes toPop
  | setKeyboardMode mode apply => t.setKeyboardMode mode apply
  | resetState => t.resetState
  | softReset => t.softReset
  | decscl level c1Mode => t.decscl level c1Mode
  | decaln => t.decaln
  | decsca isProtected => t.decsca isProtected
  | decsace mode => t.decsace mode
  | deccara rect attrs => t.deccara rect attrs
  | decrara rect attrs => t.decrara rect attrs
  | deccra src dstTop dstLeft => t.deccra src dstTop dstLeft
  | decfra ch rect => t.decfra ch rect
  | xtchecksum flags => t.xtchecksum flags
  | decera rect => t.decera rect
  | decsera rect => t.decsera rect
  | decic count => t.decic count
  | decdc count => t.decdc count
  | decbi => t.decbi
  | decfi => t.decfi
  | setTitle title => t.setTitle title
  | setIconName name => t.setIconName name
  | pushTitle => t.pushTitle
  | popTitle => t.popTitle
  | setColor index color => t.setColor index color
  | resetColor index => t.resetColor index
  | setGraphicsAttribute pi pa pv => t.setGraphicsAttribute pi pa pv
  | setMark => t.oscIterm2SetMark
  | reply e => t.emit e
  | imageOps ops => t.onCache fun c => ops.foldl Image.CacheOp.apply c
  | kittyAdvance cols rows => t.kittyAdvance cols rows
  | imageAdvance rows => t.imageAdvance rows
  | sixelAdvance col cols rows => t.sixelAdvance col cols rows
  | setTheme theme => t.setTheme theme
  | setCellDimensions width height => t.setCellDimensions width height
  | setImageProtocolEnabled enabled => t.setImageProtocolEnabled enabled
  | setImageLimits memoryLimit maxSingle => t.setImageLimits memoryLimit maxSingle
  | setImageAnimationEnabled enabled => t.setImageAnimationEnabled enabled
  | advanceAnimations now => (t.advanceAnimations now).1
  | resize newLines newCols reflow => t.resize newLines newCols reflow

/-! ## The guards -/

/-- The wrap of a print marks what it leaves behind, and a soft reset shows what was shown before. -/
def Marks (width : Char → Option Nat) (t : Term) : TermOp → Prop
  | input c => t.InputMarks width c
  | gridOp op | dirtyGridOp op => op.Marks t.activeGrid
  | softReset | decscl _ _ => t.SoftResetShown
  | _ => True

/-- The operation leaves a scrolled-back view alone, or repaints it: it neither prints nor erases nor scrolls. -/
def Silent (t : Term) : TermOp → Prop
  | gridOp op | dirtyGridOp op => op.Silent t.activeGrid
  | linefeed | newline => t.activeGrid.linefeedScrolls = false
  | setPrivateMode mode _ => mode ≠ .columnMode
  | xtrestore num => NamedPrivateMode.ofNumber num ≠ some .columnMode
  | softReset | decscl _ _ => t.SoftResetShown
  | input _ | scrollUp _ | clearScreen _ | clearLine _ | eraseChars _ => False
  | decaln | deccara _ _ | decrara _ _ | deccra _ _ _ | decfra _ _ | decera _ | decsera _ => False
  | decic _ | decdc _ | decbi | decfi => False
  | kittyAdvance _ _ | imageAdvance _ | sixelAdvance _ _ _ => False
  | _ => True

/-- Uniform widths stay uniform: a resize, or DECCOLM under mode 40, leaves no row of another width behind. -/
def KeepsWidths (t : Term) : TermOp → Prop
  | gridOp op | dirtyGridOp op => op.KeepsWidths t.activeGrid
  | setPrivateMode mode value => mode = .columnMode → t.DeccolmKeepsWidths value
  | xtrestore num =>
    NamedPrivateMode.ofNumber num = some .columnMode →
      ∀ value ∈ t.savedPrivateModes.lookup num, t.DeccolmKeepsWidths value
  | resize newLines newCols reflow => t.ResizeKeepsWidths newLines newCols reflow
  | _ => True

/-- Total damage stays total: only a soft reset may show another screen than the one that was marked. -/
def KeepsScreen (t : Term) : TermOp → Prop
  | softReset | decscl _ _ => t.SoftResetShown
  | _ => True

instance (width : Char → Option Nat) (t : Term) (op : TermOp) : Decidable (op.Marks width t) := by
  cases op <;> (unfold Marks; infer_instance)

instance (t : Term) (op : TermOp) : Decidable (op.Silent t) := by
  cases op <;> (unfold Silent; infer_instance)

instance (t : Term) (op : TermOp) : Decidable (op.KeepsScreen t) := by
  cases op <;> (unfold KeepsScreen; infer_instance)

instance (t : Term) (op : TermOp) : Decidable (op.KeepsWidths t) := by
  cases op <;> (unfold KeepsWidths; infer_instance)

/-- The guards of an operation. -/
def guards (width : Char → Option Nat) (t : Term) (op : TermOp) : Term.Guards where
  marks := op.Marks width t
  silent := op.Silent t
  widths := op.KeepsWidths t
  screen := op.KeepsScreen t

open Term in
/-- **What one operation keeps.** -/
theorem keeps (width : Char → Option Nat) {t : Term} (ht : t.Wf) (op : TermOp) :
    Keeps (op.guards width t) t (op.apply width t) := by
  -- An operation on fields that are not shown.
  have hhidden : ∀ {G : Guards} {t' : Term}, SameShown t t' → Keeps G t t' := fun h => h.keeps ht
  cases op with
  | input c => exact keeps_inputChar ht width c id id
  | backspace => exact keeps_backspace ht
  | putTab count | moveBackwardTabs count => exact keeps_tabs ht count trivial
  | linefeed => exact keeps_linefeed ht id
  | newline => exact keeps_newline ht id
  | bell => exact keeps_bell ht
  | goto line col => exact keeps_gotoOriginAware ht line col
  | gotoLine line => exact keeps_gotoOriginAware ht line _
  | gotoCol | terminalAttribute | setHyperlink => exact keeps_gridEdit ht _ fun _ => trivial
  | moveDownAndCr count =>
    exact (keeps_gridEdit ht (.moveDown count) fun _ => trivial).trans fun h => keeps_gridEdit h _ fun _ => trivial
  | moveUpAndCr count =>
    exact (keeps_gridEdit ht (.moveUp count) fun _ => trivial).trans fun h => keeps_gridEdit h _ fun _ => trivial
  | gridOp op => exact keeps_gridOp ht op id id id
  | dirtyGridOp op => exact (keeps_dirtySelection ht).trans fun h => keeps_gridOp h op id id id
  | setScrollingRegion top bottom => exact keeps_setScrollingRegion ht top bottom
  | scrollUp count => exact keeps_scrollUp ht count id
  | clearScreen mode => exact keeps_clearScreen ht mode id
  | clearLine mode => exact keeps_clearLine ht mode id
  | eraseChars count => exact keeps_eraseChars ht count id
  | setActiveCharset | configureCharset | setSingleShift | decsace | xtchecksum | setIconName | pushTitle
  | setImageProtocolEnabled => exact hhidden ⟨⟨rfl, rfl, .refl _, rfl⟩, rfl, rfl, rfl, rfl⟩
  | saveCursor => exact keeps_saveCursor ht
  | restoreCursor => exact keeps_restoreCursor ht
  | decslrmOrSaveCursor hasParams left right => exact keeps_decslrmOrSaveCursor ht hasParams left right
  | setMode mode value => exact keeps_applyMode ht mode value
  | setPrivateMode mode value =>
    exact keeps_applyPrivateMode ht mode value fun hmode => ⟨fun hq => hq hmode, fun hw => hw hmode⟩
  | xtsave modes => exact keeps_applyXtsave ht modes
  | xtrestore num =>
    refine keeps_xtrestoreOne ht num fun value hsaved mode hnamed hmode => ?_
    subst hmode
    exact ⟨fun hq => hq hnamed, fun hw => hw hnamed value hsaved⟩
  | setKeypadApplicationMode value => exact keeps_setMode ht value (by decide) (by decide)
  | setCursorShape shape => exact keeps_setCursorShape ht shape
  | setCursorStyle style => exact keeps_setCursorStyle ht style
  | pushKeyboardMode mode => exact keeps_pushKeyboardMode ht mode
  | popKeyboardModes toPop => exact keeps_popKeyboardModes ht toPop
  | setKeyboardMode mode apply => exact keeps_setKeyboardMode ht mode apply
  | resetState => exact keeps_resetState ht
  | softReset => exact keeps_softReset ht id id id
  | decscl level c1Mode => exact keeps_decscl ht level c1Mode id id id
  | decaln => exact keeps_decaln ht id
  | decsca isProtected => exact keeps_decsca ht isProtected
  | deccara rect attrs => exact keeps_deccara ht rect attrs id
  | decrara rect attrs => exact keeps_decrara ht rect attrs id
  | deccra src dstTop dstLeft => exact keeps_deccra ht src dstTop dstLeft id
  | decfra ch rect => exact keeps_decfra ht ch rect id
  | decera rect => exact keeps_decera ht rect id
  | decsera rect => exact keeps_decsera ht rect id
  | decic count => exact keeps_decic ht count id
  | decdc count => exact keeps_decdc ht count id
  | decbi => exact keeps_decbi ht id
  | decfi => exact keeps_decfi ht id
  | setTitle title => exact keeps_setTitle ht title
  | popTitle => exact keeps_popTitle ht
  | setColor index color => exact keeps_setColor ht index color
  | resetColor index => exact keeps_resetColor ht index
  | setGraphicsAttribute pi pa pv => exact keeps_setGraphicsAttribute ht pi pa pv
  | setMark => exact keeps_oscIterm2SetMark ht
  | reply e => exact keeps_emit ht e
  | imageOps ops => exact keeps_cacheOps ht ops
  | kittyAdvance cols rows => exact keeps_kittyAdvance ht cols rows id
  | imageAdvance rows => exact keeps_imageAdvance ht rows id
  | sixelAdvance col cols rows => exact keeps_sixelAdvance ht col cols rows id
  | setTheme theme => exact keeps_setTheme ht theme
  | setCellDimensions width height => exact keeps_setCellDimensions ht width height
  | setImageLimits memoryLimit maxSingle => exact keeps_setImageLimits ht memoryLimit maxSingle
  | setImageAnimationEnabled enabled => exact keeps_setImageAnimationEnabled ht enabled
  | advanceAnimations now => exact keeps_advanceAnimations ht now
  | resize newLines newCols reflow => exact keeps_resize ht newLines newCols reflow id

end TermOp

namespace Term

/-- **Every reachable terminal is well formed.** -/
theorem wf_run (width : Char → Option Nat) {t : Term} (ht : t.Wf) (ops : List TermOp) :
    (run (TermOp.apply width) t ops).Wf :=
  run_invariant (fun _ op h => (op.keeps width h).wf) ht ops

end Term

end OriTerm
