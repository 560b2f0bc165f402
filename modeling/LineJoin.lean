import LineJoin.Main
import LineJoin.Proofs.Arguments.RulesAsked
import LineJoin.Proofs.Chars.Variant
import LineJoin.Proofs.Encoding.Choice
import LineJoin.Proofs.Joining.Break
import LineJoin.Proofs.Joining.BreakStyles
import LineJoin.Proofs.Joining.ClassText
import LineJoin.Proofs.Joining.ContainedRules
import LineJoin.Proofs.Joining.DocumentOrder
import LineJoin.Proofs.Joining.EmojiEnds
import LineJoin.Proofs.Joining.Extending
import LineJoin.Proofs.Joining.Idempotence
import LineJoin.Proofs.Joining.OptionsGiven
import LineJoin.Proofs.Joining.PairedBreaks
import LineJoin.Proofs.Joining.Paragraphs
import LineJoin.Proofs.Joining.RenderedClasses
import LineJoin.Proofs.Joining.Reversal
import LineJoin.Proofs.Joining.SimpleRules
import LineJoin.Proofs.Joining.TreeRewrite
import LineJoin.Proofs.Joining.UnitGrammar
import LineJoin.Proofs.Run.Effects
import LineJoin.Proofs.Run.StableDocuments
import LineJoin.Proofs.Settings.Completeness
import LineJoin.Proofs.Settings.Ignored
import LineJoin.Proofs.Settings.MergeLaws
import LineJoin.Proofs.Settings.Reloading
import LineJoin.Proofs.Settings.TrailingComments
import LineJoin.Proofs.Settings.Unwritable
