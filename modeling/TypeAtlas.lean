import TypeAtlas.Catalog.Query
import TypeAtlas.Config.Text
import TypeAtlas.Descriptor.Decode
import TypeAtlas.Dwarf.Stream
import TypeAtlas.Proofs.Naming.Rules
import TypeAtlas.Proofs.Naming.Memo
import TypeAtlas.Proofs.Naming.Plain
import TypeAtlas.Proofs.Naming.Tree
import TypeAtlas.Proofs.Naming.Reading
import TypeAtlas.Proofs.Inventory.Visits
import TypeAtlas.Proofs.Inventory.Steps
import TypeAtlas.Proofs.Inventory.Agreement
import TypeAtlas.Proofs.Inventory.Closure
import TypeAtlas.Proofs.Inventory.Reach
import TypeAtlas.Proofs.Inventory.Registered
import TypeAtlas.Proofs.Inventory.Separated
import TypeAtlas.Proofs.Memory.Bytes
import TypeAtlas.Proofs.Text.Utf8
import TypeAtlas.Proofs.Descriptor.Names
import TypeAtlas.Proofs.Descriptor.Encoding
import TypeAtlas.Proofs.Descriptor.Decoding
import TypeAtlas.Proofs.Catalog.Forcing
import TypeAtlas.Proofs.DebugInfo.Search
import TypeAtlas.Proofs.Registry.Checks
import TypeAtlas.Proofs.Registry.Invocation
import TypeAtlas.Proofs.Catalog.Stages
import TypeAtlas.Proofs.Catalog.History
import TypeAtlas.Proofs.DebugInfo.Keys
import TypeAtlas.Proofs.DebugInfo.Pointers
import TypeAtlas.Proofs.Registry.Tables
import TypeAtlas.Proofs.Inventory.Refused
import TypeAtlas.Proofs.Dwarf.Offers
import TypeAtlas.Proofs.Dwarf.Delivery
import TypeAtlas.Proofs.Naming.Levels
import TypeAtlas.Proofs.Inventory.Nesting
import TypeAtlas.Proofs.DebugInfo.FirstMatch
import TypeAtlas.Proofs.Descriptor.Truncation
import TypeAtlas.Proofs.Descriptor.Accepted
import TypeAtlas.Proofs.Memory.Boundaries
import TypeAtlas.Proofs.Inventory.Warnings
import TypeAtlas.Proofs.Catalog.Views
import TypeAtlas.Proofs.Text.Decoding
import TypeAtlas.Proofs.Descriptor.NameOutcomes
import TypeAtlas.Proofs.Descriptor.DeclaredNames
