import TypeHost.Accessor
import TypeHost.Context
import TypeHost.Definition
import TypeHost.Definition.Kind
import TypeHost.Definition.Slot
import TypeHost.Derive.Attribute
import TypeHost.Derive.Error
import TypeHost.Derive.Expansion
import TypeHost.Derive.Fields
import TypeHost.Derive.Generics
import TypeHost.Derive.Grammar
import TypeHost.Derive.Grammar.Angle
import TypeHost.Derive.Grammar.Bound
import TypeHost.Derive.Grammar.Declaration
import TypeHost.Derive.Grammar.Expression
import TypeHost.Derive.Grammar.Member
import TypeHost.Derive.Grammar.Nesting
import TypeHost.Derive.Grammar.Operator
import TypeHost.Derive.Grammar.Path
import TypeHost.Derive.Grammar.Pattern
import TypeHost.Derive.Grammar.Statement
import TypeHost.Derive.Grammar.Type
import TypeHost.Derive.Item
import TypeHost.Derive.Mode
import TypeHost.Derive.Reader
import TypeHost.Derive.Token
import TypeHost.Derive.Token.Literal
import TypeHost.Derive.Token.Scan
import TypeHost.Error
import TypeHost.Flags
import TypeHost.Handle
import TypeHost.Heap
import TypeHost.Heap.Lemmas
import TypeHost.Host.Basic
import TypeHost.Host.Instance
import TypeHost.Host.Memory
import TypeHost.Host.Object
import TypeHost.Host.Registration
import TypeHost.Host.Release
import TypeHost.Host.Run
import TypeHost.Host.Size
import TypeHost.Host.Subtype
import TypeHost.Layout
import TypeHost.Numbered
import TypeHost.Param
import TypeHost.Proofs.Accessor
import TypeHost.Proofs.Checks
import TypeHost.Proofs.Definition
import TypeHost.Proofs.Derive.Expansion
import TypeHost.Proofs.Derive.Modes
import TypeHost.Proofs.Derive.Rewording
import TypeHost.Proofs.Heap.Generation
import TypeHost.Proofs.Heap.Lookup
import TypeHost.Proofs.Heap.Map
import TypeHost.Proofs.Heap.Occupancy
import TypeHost.Proofs.Heap.Representation
import TypeHost.Proofs.Host.Account
import TypeHost.Proofs.Host.Accounting
import TypeHost.Proofs.Host.AncestorAccess
import TypeHost.Proofs.Host.Ancestry
import TypeHost.Proofs.Host.Balance
import TypeHost.Proofs.Host.BaseOrder
import TypeHost.Proofs.Host.Bytes
import TypeHost.Proofs.Host.Cascade
import TypeHost.Proofs.Host.CheckedAccess
import TypeHost.Proofs.Host.Collapse
import TypeHost.Proofs.Host.Constancy
import TypeHost.Proofs.Host.Fade
import TypeHost.Proofs.Host.Freshness
import TypeHost.Proofs.Host.Gain
import TypeHost.Proofs.Host.GivingBack
import TypeHost.Proofs.Host.Header
import TypeHost.Proofs.Host.Hierarchy
import TypeHost.Proofs.Host.Inheritance
import TypeHost.Proofs.Host.Items
import TypeHost.Proofs.Host.Lasting
import TypeHost.Proofs.Host.Layering
import TypeHost.Proofs.Host.Leak
import TypeHost.Proofs.Host.Memory
import TypeHost.Proofs.Host.Names
import TypeHost.Proofs.Host.Naming
import TypeHost.Proofs.Host.Overriding
import TypeHost.Proofs.Host.OwnStruct
import TypeHost.Proofs.Host.Plan
import TypeHost.Proofs.Host.Registration
import TypeHost.Proofs.Host.ReleaseOrder
import TypeHost.Proofs.Host.Saturation
import TypeHost.Proofs.Host.Settled
import TypeHost.Proofs.Host.Sizes
import TypeHost.Proofs.Host.Store
import TypeHost.Proofs.Host.Substitution
import TypeHost.Proofs.Host.Touch
import TypeHost.Proofs.Host.Unseen
import TypeHost.Proofs.Host.WellFormed
import TypeHost.Proofs.Layout
import TypeHost.Proofs.Overriding
import TypeHost.Proofs.Param
import TypeHost.Proofs.Wire.Acceptance
import TypeHost.Proofs.Wire.Normal
import TypeHost.Proofs.Wire.RoundTrip
import TypeHost.Spec.Basic
import TypeHost.Spec.Builder
import TypeHost.Tally
import TypeHost.Text.Hex
import TypeHost.Text.Quoted
import TypeHost.Text.Ranges
import TypeHost.Text.Word
import TypeHost.Wire.CString
import TypeHost.Wire.Definition
import TypeHost.Wire.Spec
