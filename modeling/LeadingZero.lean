import LeadingZero.Draft
import LeadingZero.Random.MersenneTwister
import LeadingZero.Scanner
import LeadingZero.Proofs.Effects
import LeadingZero.Proofs.Ordinary
import LeadingZero.Proofs.Balance
import LeadingZero.Proofs.Shuffling
import LeadingZero.Proofs.Batches
import LeadingZero.Proofs.Margins
import LeadingZero.Proofs.Contrast
import LeadingZero.Proofs.Drafts
import LeadingZero.Proofs.Experiment
import LeadingZero.Proofs.Search
import LeadingZero.Proofs.Conclusive
import LeadingZero.Proofs.FirstFit
import LeadingZero.Proofs.Agreement
import LeadingZero.Proofs.Hypergeometric
import LeadingZero.Proofs.Contingency
import LeadingZero.Proofs.Rearrangement
import LeadingZero.Proofs.Separation
import LeadingZero.Proofs.Descriptions
import LeadingZero.Proofs.Sameness
import LeadingZero.Proofs.Escalation
import LeadingZero.Proofs.Coverage
import LeadingZero.Proofs.Soundness
import LeadingZero.Proofs.Collection
import LeadingZero.Proofs.Rounds
import LeadingZero.Proofs.Dispatch
import LeadingZero.Proofs.Pools
import LeadingZero.Proofs.Resilience
import LeadingZero.Proofs.SideBySide
import LeadingZero.Proofs.Twins
import LeadingZero.Proofs.Outcomes
import LeadingZero.Proofs.Alike
import LeadingZero.Proofs.Diagnostics
