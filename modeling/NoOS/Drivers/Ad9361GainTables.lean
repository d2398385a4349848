import Mathlib.Data.UInt
import Mathlib.Data.List.Basic

/-!
# The gain tables of the AD9361

The words for the table of the device and the gain in dB of each of them, with and without a separate gain of the
low pass filter.
-/

namespace NoOS

/-- External and internal LNA and mixer, TIA and LPF, calibration and digital gain. -/
abbrev GainWord := UInt8 × UInt8 × UInt8

def SIZE_FULL_TABLE : ℕ := 77

def SIZE_SPLIT_TABLE : ℕ := 41

def fullGainTable800 : List GainWord := [
    (0x00, 0x00, 0x20), (0x00, 0x00, 0x00), (0x00, 0x00, 0x00), (0x00, 0x01, 0x00), (0x00, 0x02, 0x00),
    (0x00, 0x03, 0x00), (0x00, 0x04, 0x00), (0x00, 0x05, 0x00), (0x01, 0x03, 0x20), (0x01, 0x04, 0x00),
    (0x01, 0x05, 0x00), (0x01, 0x06, 0x00), (0x01, 0x07, 0x00), (0x01, 0x08, 0x00), (0x01, 0x09, 0x00),
    (0x01, 0x0A, 0x00), (0x01, 0x0B, 0x00), (0x01, 0x0C, 0x00), (0x01, 0x0D, 0x00), (0x01, 0x0E, 0x00),
    (0x02, 0x09, 0x20), (0x02, 0x0A, 0x00), (0x02, 0x0B, 0x00), (0x02, 0x0C, 0x00), (0x02, 0x0D, 0x00),
    (0x02, 0x0E, 0x00), (0x02, 0x0F, 0x00), (0x02, 0x10, 0x00), (0x02, 0x2B, 0x20), (0x02, 0x2C, 0x00),
    (0x04, 0x28, 0x20), (0x04, 0x29, 0x00), (0x04, 0x2A, 0x00), (0x04, 0x2B, 0x00), (0x24, 0x20, 0x20),
    (0x24, 0x21, 0x00), (0x44, 0x20, 0x20), (0x44, 0x21, 0x00), (0x44, 0x22, 0x00), (0x44, 0x23, 0x00),
    (0x44, 0x24, 0x00), (0x44, 0x25, 0x00), (0x44, 0x26, 0x00), (0x44, 0x27, 0x00), (0x44, 0x28, 0x00),
    (0x44, 0x29, 0x00), (0x44, 0x2A, 0x00), (0x44, 0x2B, 0x00), (0x44, 0x2C, 0x00), (0x44, 0x2D, 0x00),
    (0x44, 0x2E, 0x00), (0x44, 0x2F, 0x00), (0x44, 0x30, 0x00), (0x44, 0x31, 0x00), (0x44, 0x32, 0x00),
    (0x64, 0x2E, 0x20), (0x64, 0x2F, 0x00), (0x64, 0x30, 0x00), (0x64, 0x31, 0x00), (0x64, 0x32, 0x00),
    (0x64, 0x33, 0x00), (0x64, 0x34, 0x00), (0x64, 0x35, 0x00), (0x64, 0x36, 0x00), (0x64, 0x37, 0x00),
    (0x64, 0x38, 0x00), (0x65, 0x38, 0x20), (0x66, 0x38, 0x20), (0x67, 0x38, 0x20), (0x68, 0x38, 0x20),
    (0x69, 0x38, 0x20), (0x6A, 0x38, 0x20), (0x6B, 0x38, 0x20), (0x6C, 0x38, 0x20), (0x6D, 0x38, 0x20),
    (0x6E, 0x38, 0x20), (0x6F, 0x38, 0x20)]

def fullGainTable2300 : List GainWord := [
    (0x00, 0x00, 0x20), (0x00, 0x00, 0x00), (0x00, 0x00, 0x00), (0x00, 0x01, 0x00), (0x00, 0x02, 0x00),
    (0x00, 0x03, 0x00), (0x00, 0x04, 0x00), (0x00, 0x05, 0x00), (0x01, 0x03, 0x20), (0x01, 0x04, 0x00),
    (0x01, 0x05, 0x00), (0x01, 0x06, 0x00), (0x01, 0x07, 0x00), (0x01, 0x08, 0x00), (0x01, 0x09, 0x00),
    (0x01, 0x0A, 0x00), (0x01, 0x0B, 0x00), (0x01, 0x0C, 0x00), (0x01, 0x0D, 0x00), (0x01, 0x0E, 0x00),
    (0x02, 0x09, 0x20), (0x02, 0x0A, 0x00), (0x02, 0x0B, 0x00), (0x02, 0x0C, 0x00), (0x02, 0x0D, 0x00),
    (0x02, 0x0E, 0x00), (0x02, 0x0F, 0x00), (0x02, 0x10, 0x00), (0x02, 0x2B, 0x20), (0x02, 0x2C, 0x00),
    (0x04, 0x27, 0x20), (0x04, 0x28, 0x00), (0x04, 0x29, 0x00), (0x04, 0x2A, 0x00), (0x04, 0x2B, 0x00),
    (0x24, 0x21, 0x20), (0x24, 0x22, 0x00), (0x44, 0x20, 0x20), (0x44, 0x21, 0x00), (0x44, 0x22, 0x00),
    (0x44, 0x23, 0x00), (0x44, 0x24, 0x00), (0x44, 0x25, 0x00), (0x44, 0x26, 0x00), (0x44, 0x27, 0x00),
    (0x44, 0x28, 0x00), (0x44, 0x29, 0x00), (0x44, 0x2A, 0x00), (0x44, 0x2B, 0x00), (0x44, 0x2C, 0x00),
    (0x44, 0x2D, 0x00), (0x44, 0x2E, 0x00), (0x44, 0x2F, 0x00), (0x44, 0x30, 0x00), (0x44, 0x31, 0x00),
    (0x64, 0x2E, 0x20), (0x64, 0x2F, 0x00), (0x64, 0x30, 0x00), (0x64, 0x31, 0x00), (0x64, 0x32, 0x00),
    (0x64, 0x33, 0x00), (0x64, 0x34, 0x00), (0x64, 0x35, 0x00), (0x64, 0x36, 0x00), (0x64, 0x37, 0x00),
    (0x64, 0x38, 0x00), (0x65, 0x38, 0x20), (0x66, 0x38, 0x20), (0x67, 0x38, 0x20), (0x68, 0x38, 0x20),
    (0x69, 0x38, 0x20), (0x6A, 0x38, 0x20), (0x6B, 0x38, 0x20), (0x6C, 0x38, 0x20), (0x6D, 0x38, 0x20),
    (0x6E, 0x38, 0x20), (0x6F, 0x38, 0x20)]

def fullGainTable5500 : List GainWord := [
    (0x00, 0x00, 0x20), (0x00, 0x00, 0x00), (0x00, 0x00, 0x00), (0x00, 0x00, 0x00), (0x00, 0x00, 0x00),
    (0x00, 0x01, 0x00), (0x00, 0x02, 0x00), (0x00, 0x03, 0x00), (0x01, 0x01, 0x20), (0x01, 0x02, 0x00),
    (0x01, 0x03, 0x00), (0x01, 0x04, 0x20), (0x01, 0x05, 0x00), (0x01, 0x06, 0x00), (0x01, 0x07, 0x00),
    (0x01, 0x08, 0x00), (0x01, 0x09, 0x00), (0x01, 0x0A, 0x00), (0x01, 0x0B, 0x00), (0x01, 0x0C, 0x00),
    (0x02, 0x08, 0x20), (0x02, 0x09, 0x00), (0x02, 0x0A, 0x00), (0x02, 0x0B, 0x20), (0x02, 0x0C, 0x00),
    (0x02, 0x0D, 0x00), (0x02, 0x0E, 0x00), (0x02, 0x0F, 0x00), (0x02, 0x2A, 0x20), (0x02, 0x2B, 0x00),
    (0x04, 0x27, 0x20), (0x04, 0x28, 0x00), (0x04, 0x29, 0x00), (0x04, 0x2A, 0x00), (0x04, 0x2B, 0x00),
    (0x04, 0x2C, 0x00), (0x04, 0x2D, 0x00), (0x24, 0x20, 0x20), (0x24, 0x21, 0x00), (0x24, 0x22, 0x00),
    (0x44, 0x20, 0x20), (0x44, 0x21, 0x00), (0x44, 0x22, 0x00), (0x44, 0x23, 0x00), (0x44, 0x24, 0x00),
    (0x44, 0x25, 0x00), (0x44, 0x26, 0x00), (0x44, 0x27, 0x00), (0x44, 0x28, 0x00), (0x44, 0x29, 0x00),
    (0x44, 0x2A, 0x00), (0x44, 0x2B, 0x00), (0x44, 0x2C, 0x00), (0x44, 0x2D, 0x00), (0x44, 0x2E, 0x00),
    (0x64, 0x2E, 0x20), (0x64, 0x2F, 0x00), (0x64, 0x30, 0x00), (0x64, 0x31, 0x00), (0x64, 0x32, 0x00),
    (0x64, 0x33, 0x00), (0x64, 0x34, 0x00), (0x64, 0x35, 0x00), (0x64, 0x36, 0x00), (0x64, 0x37, 0x00),
    (0x64, 0x38, 0x00), (0x65, 0x38, 0x20), (0x66, 0x38, 0x20), (0x67, 0x38, 0x20), (0x68, 0x38, 0x20),
    (0x69, 0x38, 0x20), (0x6A, 0x38, 0x20), (0x6B, 0x38, 0x20), (0x6C, 0x38, 0x20), (0x6D, 0x38, 0x20),
    (0x6E, 0x38, 0x20), (0x6F, 0x38, 0x20)]

def fullGainTableAbsGain800 : List ℤ := [
    -1, -1, -1, 0, 1, 2, 3, 4, 5, 6, 7, 8, 9, 10, 11, 12, 13, 14, 15, 16,
    17, 18, 19, 20, 21, 22, 23, 24, 25, 26, 27, 28, 29, 30, 31, 32, 33, 34, 35, 36,
    37, 38, 39, 40, 41, 42, 43, 44, 45, 46, 47, 48, 49, 50, 51, 52, 53, 54, 55, 56,
    57, 58, 59, 60, 61, 62, 63, 64, 65, 66, 67, 68, 69, 70, 71, 72, 73]

def fullGainTableAbsGain2300 : List ℤ := [
    -3, -3, -3, -2, -1, 0, 1, 2, 3, 4, 5, 6, 7, 8, 9, 10, 11, 12, 13, 14,
    15, 16, 17, 18, 19, 20, 21, 22, 23, 24, 25, 26, 27, 28, 29, 30, 31, 32, 33, 34,
    35, 36, 37, 38, 39, 40, 41, 42, 43, 44, 45, 46, 47, 48, 49, 50, 51, 52, 53, 54,
    55, 56, 57, 58, 59, 60, 61, 62, 63, 64, 65, 66, 67, 68, 69, 70, 71]

def fullGainTableAbsGain5500 : List ℤ := [
    -10, -10, -10, -10, -10, -9, -8, -7, -6, -5, -4, -3, -2, -1, 0, 1, 2, 3, 4, 5,
    6, 7, 8, 9, 10, 11, 12, 13, 14, 15, 16, 17, 18, 19, 20, 21, 22, 23, 24, 25,
    26, 27, 28, 29, 30, 31, 32, 33, 34, 35, 36, 37, 38, 39, 40, 41, 42, 43, 44, 45,
    46, 47, 48, 49, 50, 51, 52, 53, 54, 55, 56, 57, 58, 59, 60, 61, 62]

def splitGainTable800 : List GainWord := [
    (0x00, 0x18, 0x20), (0x00, 0x18, 0x00), (0x00, 0x18, 0x00), (0x00, 0x18, 0x00), (0x00, 0x18, 0x00),
    (0x00, 0x18, 0x00), (0x00, 0x18, 0x20), (0x01, 0x18, 0x20), (0x02, 0x18, 0x20), (0x04, 0x18, 0x20),
    (0x04, 0x38, 0x20), (0x05, 0x38, 0x20), (0x06, 0x38, 0x20), (0x07, 0x38, 0x20), (0x08, 0x38, 0x20),
    (0x09, 0x38, 0x20), (0x0A, 0x38, 0x20), (0x0B, 0x38, 0x20), (0x0C, 0x38, 0x20), (0x0D, 0x38, 0x20),
    (0x0E, 0x38, 0x20), (0x0F, 0x38, 0x20), (0x24, 0x38, 0x20), (0x25, 0x38, 0x20), (0x44, 0x38, 0x20),
    (0x45, 0x38, 0x20), (0x46, 0x38, 0x20), (0x47, 0x38, 0x20), (0x48, 0x38, 0x20), (0x64, 0x38, 0x20),
    (0x65, 0x38, 0x20), (0x66, 0x38, 0x20), (0x67, 0x38, 0x20), (0x68, 0x38, 0x20), (0x69, 0x38, 0x20),
    (0x6A, 0x38, 0x20), (0x6B, 0x38, 0x20), (0x6C, 0x38, 0x20), (0x6D, 0x38, 0x20), (0x6E, 0x38, 0x20),
    (0x6F, 0x38, 0x20)]

def splitGainTable2300 : List GainWord := [
    (0x00, 0x18, 0x20), (0x00, 0x18, 0x00), (0x00, 0x18, 0x00), (0x00, 0x18, 0x00), (0x00, 0x18, 0x00),
    (0x00, 0x18, 0x00), (0x00, 0x18, 0x00), (0x00, 0x18, 0x20), (0x01, 0x18, 0x20), (0x02, 0x18, 0x20),
    (0x04, 0x18, 0x20), (0x04, 0x38, 0x20), (0x05, 0x38, 0x20), (0x06, 0x38, 0x20), (0x07, 0x38, 0x20),
    (0x08, 0x38, 0x20), (0x09, 0x38, 0x20), (0x0A, 0x38, 0x20), (0x0B, 0x38, 0x20), (0x0C, 0x38, 0x20),
    (0x0D, 0x38, 0x20), (0x0E, 0x38, 0x20), (0x0F, 0x38, 0x20), (0x25, 0x38, 0x20), (0x26, 0x38, 0x20),
    (0x44, 0x38, 0x20), (0x45, 0x38, 0x20), (0x46, 0x38, 0x20), (0x47, 0x38, 0x20), (0x64, 0x38, 0x20),
    (0x65, 0x38, 0x20), (0x66, 0x38, 0x20), (0x67, 0x38, 0x20), (0x68, 0x38, 0x20), (0x69, 0x38, 0x20),
    (0x6A, 0x38, 0x20), (0x6B, 0x38, 0x20), (0x6C, 0x38, 0x20), (0x6D, 0x38, 0x20), (0x6E, 0x38, 0x20),
    (0x6F, 0x38, 0x20)]

def splitGainTable5500 : List GainWord := [
    (0x00, 0x18, 0x20), (0x00, 0x18, 0x00), (0x00, 0x18, 0x00), (0x00, 0x18, 0x00), (0x00, 0x18, 0x00),
    (0x00, 0x18, 0x00), (0x00, 0x18, 0x00), (0x00, 0x18, 0x00), (0x00, 0x18, 0x00), (0x00, 0x18, 0x00),
    (0x01, 0x18, 0x20), (0x02, 0x18, 0x20), (0x04, 0x18, 0x20), (0x04, 0x38, 0x20), (0x05, 0x38, 0x20),
    (0x06, 0x38, 0x20), (0x07, 0x38, 0x20), (0x08, 0x38, 0x20), (0x09, 0x38, 0x20), (0x0A, 0x38, 0x20),
    (0x0B, 0x38, 0x20), (0x0C, 0x38, 0x20), (0x0D, 0x38, 0x20), (0x0E, 0x38, 0x20), (0x0F, 0x38, 0x20),
    (0x62, 0x38, 0x20), (0x25, 0x38, 0x20), (0x26, 0x38, 0x20), (0x44, 0x38, 0x20), (0x64, 0x38, 0x20),
    (0x65, 0x38, 0x20), (0x66, 0x38, 0x20), (0x67, 0x38, 0x20), (0x68, 0x38, 0x20), (0x69, 0x38, 0x20),
    (0x6A, 0x38, 0x20), (0x6B, 0x38, 0x20), (0x6C, 0x38, 0x20), (0x6D, 0x38, 0x20), (0x6E, 0x38, 0x20),
    (0x6F, 0x38, 0x20)]

def splitGainTableAbsGain800 : List ℤ := [
    -1, -1, -1, -1, -1, -1, -1, 2, 8, 13, 19, 20, 21, 22, 23, 24, 25, 26, 27, 28,
    29, 30, 31, 32, 33, 34, 35, 36, 37, 38, 39, 40, 41, 42, 43, 44, 45, 46, 47, 48,
    49]

def splitGainTableAbsGain2300 : List ℤ := [
    -3, -3, -3, -3, -3, -3, -3, -3, 0, 6, 12, 18, 19, 20, 21, 22, 23, 24, 25, 26,
    27, 28, 29, 30, 31, 32, 33, 34, 35, 36, 37, 38, 39, 40, 41, 42, 43, 44, 45, 46,
    47]

def splitGainTableAbsGain5500 : List ℤ := [
    -10, -10, -10, -10, -10, -10, -10, -10, -10, -10, -7, -2, 3, 9, 10, 11, 12, 13, 14, 15,
    16, 17, 18, 19, 20, 22, 24, 25, 26, 27, 28, 29, 30, 31, 32, 33, 34, 35, 36, 37,
    38]

structure GainTableInfo where
  start : ℕ
  stop : ℕ
  maxIndex : ℕ
  splitTable : Bool
  absGainTbl : List ℤ
  tab : List GainWord

/-- `ad9361_adi_gt_info`, whose last entry ends the search, with the split tables. -/
def adiGtInfo : List GainTableInfo :=
  [⟨0, 1300000000, SIZE_FULL_TABLE, false, fullGainTableAbsGain800, fullGainTable800⟩,
    ⟨1300000000, 4000000000, SIZE_FULL_TABLE, false, fullGainTableAbsGain2300, fullGainTable2300⟩,
    ⟨4000000000, 6000000000, SIZE_FULL_TABLE, false, fullGainTableAbsGain5500, fullGainTable5500⟩,
    ⟨0, 1300000000, SIZE_SPLIT_TABLE, true, splitGainTableAbsGain800, splitGainTable800⟩,
    ⟨1300000000, 4000000000, SIZE_SPLIT_TABLE, true, splitGainTableAbsGain2300, splitGainTable2300⟩,
    ⟨4000000000, 6000000000, SIZE_SPLIT_TABLE, true, splitGainTableAbsGain5500, splitGainTable5500⟩]

def lnaTable : List (List ℤ) := [[5, 17, 19, 24], [3, 14, 17, 21], [-4, 10, 13, 14]]

def tiaTable : List ℤ := [-6, 0]

def mixerTable : List (List ℤ) :=
  [[0, 3, 9, 13, 14, 15, 16, 17, 18, 19, 20, 21, 22, 23, 24, 25],
    [0, 3, 9, 14, 15, 16, 17, 18, 19, 20, 21, 22, 23, 24, 25, 26],
    [0, 3, 8, 12, 13, 14, 15, 16, 17, 18, 19, 20, 21, 22, 23, 24]]

end NoOS
